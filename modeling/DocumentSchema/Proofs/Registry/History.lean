import DocumentSchema.Proofs.Registry.Operations
import Mathlib.Data.List.Dedup
import Mathlib.Data.List.Induction

/-!
# Histories of a registry

A history is the list of the operations that were made on a registry, from the empty one on. Every
statement about histories follows from the effect of one operation, by adding it at the end.

What is cached is what the history put last. An id is compiled at most once, because it has a schema
from then on. The registry is unavailable exactly if some definition has aborted inside it. Schemas
are numbered in the order in which they were put, so two answers with the same number are the same
schema.
-/

namespace DocumentSchema

namespace Registry

variable {registry : Registry} {operation : Operation} {id : String} {definition : Definition}

/-! ## Histories -/

/-- The operations of a history, each with the registry that it met. -/
def trace (registry : Registry) : List Operation → List (Registry × Operation)
  | [] => []
  | operation :: rest =>
    (registry, operation) :: trace (registry.perform operation).registry rest

def after (registry : Registry) (history : List Operation) : Registry :=
  history.foldl (fun registry operation ↦ (registry.perform operation).registry) registry

theorem after_append_singleton (history : List Operation) :
    registry.after (history ++ [operation])
      = (registry.after history).apply ((registry.after history).effect operation) := by
  rw [after, List.foldl_append, ← registry_perform]
  rfl

theorem trace_append_singleton (history : List Operation) :
    registry.trace (history ++ [operation])
      = registry.trace history ++ [(registry.after history, operation)] := by
  induction history generalizing registry with
  | nil => rfl
  | cons first rest ih =>
    rw [List.cons_append, trace, trace, ih, List.cons_append]
    rfl

/-- What an operation puts under which id. -/
def put? : Registry × Operation → Option (String × Registered)
  | (registry, operation) =>
    match registry.effect operation with
    | .puts id schema => some (id, ⟨registry.next, schema⟩)
    | .nothing | .breaks => none

/-- The id for which an operation runs a definition that succeeds. -/
def compiled? : Registry × Operation → Option String
  | (registry, operation) =>
    match operation.definition?, registry.effect operation with
    | some (id, _), .puts _ _ => some id
    | _, _ => none

/-- A definition aborts inside the registry. -/
def Aborts : Registry × Operation → Prop
  | (registry, operation) => (registry.perform operation).ran = true ∧
    ∃ id, operation.definition? = some (id, .aborts)

/-- Everything that a history put, with its id, in order. -/
def puts (history : List Operation) : List (String × Registered) :=
  (trace {} history).filterMap put?

/-- The ids for which a definition was run and succeeded, in order. -/
def compiled (history : List Operation) : List String := (trace {} history).filterMap compiled?

/-- What a history put last under an id. -/
def lastPut (history : List Operation) (id : String) : Option Registered :=
  Entries.get? (puts history).reverse id

theorem puts_append_singleton (history : List Operation) :
    puts (history ++ [operation])
      = puts history ++ (put? (after {} history, operation)).toList := by
  rw [puts, trace_append_singleton, List.filterMap_append, puts]
  cases hput : put? (after {} history, operation) <;> simp [hput]

theorem compiled_append_singleton (history : List Operation) :
    compiled (history ++ [operation])
      = compiled history ++ (compiled? (after {} history, operation)).toList := by
  rw [compiled, trace_append_singleton, List.filterMap_append, compiled]
  cases hcompiled : compiled? (after {} history, operation) <;> simp [hcompiled]

/-! ## What a history leaves -/

theorem find?_after (history : List Operation) (id : String) :
    (after {} history).find? id = lastPut history id := by
  induction history using List.reverseRecOn with
  | nil => rfl
  | append_singleton history operation ih =>
    rw [after_append_singleton, lastPut, puts_append_singleton, put?]
    cases (after {} history).effect operation with
    | puts other schema =>
      rw [List.reverse_append]
      simp only [apply, find?_put, Option.toList_some, List.reverse_singleton,
        List.singleton_append, Entries.get?_cons]
      rw [ih, lastPut]
    | nothing => simpa [apply, find?, lastPut] using ih
    | breaks => simpa [apply, find?, lastPut] using ih

theorem keys_after (history : List Operation) :
    (after {} history).schemas.keys.Perm ((puts history).map (·.1)).dedup := by
  have hnodup : (after {} history).schemas.keys.Nodup := by
    induction history using List.reverseRecOn with
    | nil => exact List.nodup_nil
    | append_singleton history operation ih =>
      rw [after_append_singleton]
      cases (after {} history).effect operation with
      | puts id schema => exact Entries.nodup_keys_insert ih _ _
      | nothing => exact ih
      | breaks => exact ih
  refine (List.perm_ext_iff_of_nodup hnodup (List.nodup_dedup _)).mpr fun id ↦ ?_
  -- An id has a schema if and only if something was put under it.
  have hfind := find?_after history id
  rw [← not_iff_not, ← Entries.get?_eq_none_iff, ← find?, hfind, lastPut,
    Entries.get?_eq_none_iff, List.mem_dedup]
  simp [Entries.keys]

theorem numbers_puts (history : List Operation) :
    (puts history).map (·.2.number) = List.range (after {} history).next := by
  induction history using List.reverseRecOn with
  | nil => rfl
  | append_singleton history operation ih =>
    rw [after_append_singleton, puts_append_singleton, put?, List.map_append, ih]
    cases (after {} history).effect operation with
    | puts id schema => simp [apply, put, List.range_succ]
    | nothing => simp [apply]
    | breaks => simp [apply]

/-- An id that was compiled has a schema, and so is not compiled again. -/
theorem nodup_compiled (history : List Operation) :
    (compiled history).Nodup ∧ ∀ id ∈ compiled history, (after {} history).find? id ≠ none := by
  induction history using List.reverseRecOn with
  | nil => simp [compiled, trace]
  | append_singleton history operation ih =>
    obtain ⟨hnodup, hfound⟩ := ih
    rw [compiled_append_singleton, compiled?, after_append_singleton]
    cases heffect : (after {} history).effect operation with
    | nothing =>
      simpa [apply] using ⟨hnodup, hfound⟩
    | breaks =>
      simpa [apply] using ⟨hnodup, hfound⟩
    | puts id schema =>
      have hkept : ∀ other ∈ compiled history,
          ((after {} history).put id schema).find? other ≠ none := by
        intro other hother
        rw [find?_put]
        split
        · simp
        · exact hfound other hother
      obtain ⟨havailable, rfl | ⟨habsent, hdefinition⟩⟩ := of_effect_eq_puts heffect
      · simp only [Operation.definition?, apply, Option.toList_none, List.append_nil]
        exact ⟨hnodup, hkept⟩
      · have hfresh : id ∉ compiled history := fun hid ↦ hfound id hid habsent
        simp only [hdefinition, apply, Option.toList_some]
        refine ⟨?_, fun other hother ↦ ?_⟩
        · rw [List.nodup_append]
          refine ⟨hnodup, List.nodup_singleton id, ?_⟩
          rintro other hother last hlast rfl
          exact hfresh (List.mem_singleton.mp hlast ▸ hother)
        · rcases List.mem_append.mp hother with hother | hother
          · exact hkept other hother
          · simp [List.mem_singleton.mp hother]

theorem unavailable_apply (effect : Effect) :
    (registry.apply effect).unavailable = true ↔
      registry.unavailable = true ∨ effect = .breaks := by
  cases effect <;> simp [apply, put]

theorem aborts_iff : Aborts (registry, operation) ↔ registry.effect operation = .breaks := by
  cases hdefinition : operation.definition? with
  | none =>
    have heffect : registry.effect operation ≠ .breaks := by
      cases operation with
      | insert id schema => rw [effect]; split <;> simp
      | get id => simp [effect]
      | size => simp [effect]
      | getOrCompile _ _ | validate _ _ _ _ => cases hdefinition
    simp [Aborts, hdefinition, heffect]
  | some given =>
    obtain ⟨id, definition⟩ := given
    rw [Aborts, ran_of_definition? hdefinition, effect_of_definition? hdefinition, hdefinition]
    cases registry.unavailable <;> cases registry.find? id <;> cases definition <;>
      simp [Effect.ofDefinition]

/-- **The registry is unavailable if and only if a definition has aborted inside it.** -/
theorem unavailable_after (history : List Operation) :
    (after {} history).unavailable = true ↔ ∃ met ∈ trace {} history, Aborts met := by
  induction history using List.reverseRecOn with
  | nil => simp [after, trace]
  | append_singleton history operation ih =>
    rw [after_append_singleton, trace_append_singleton, unavailable_apply, ih, ← aborts_iff]
    simp only [List.mem_append, List.mem_singleton, or_and_right, exists_or, exists_eq_left]

/-! ## First definitions -/

/-- What is true of the step of an operation on the registry that a history leaves. -/
structure FirstDefinitions (history : List Operation) (operation : Operation)
    (registry : Registry) (step : Step Reply) : Prop where
  /-- The step does what its effect says. -/
  effect_eq : step.registry = registry.apply (registry.effect operation)
  /-- Another schema of an id was put in, or is the first that a definition of the id made. -/
  of_find?_ne : ∀ id, step.registry.find? id ≠ registry.find? id →
    registry.unavailable = false ∧ ∃ found, step.registry.find? id = some found ∧
      (operation = .insert id found.schema ∨
        registry.find? id = none ∧ operation.definition? = some (id, .made found.schema))
  /-- A definition is run if and only if the registry is available and the id has no schema. -/
  ran_iff : ∀ id definition, operation.definition? = some (id, definition) →
    (step.ran = true ↔ registry.unavailable = false ∧ registry.find? id = none)
  /-- No definition of an id succeeds twice. -/
  compiled_once : (compiled (history ++ [operation])).Nodup
  /-- A definition that is at fault changes nothing, and the next one for the id is run too. -/
  fault : ∀ id error, operation.definition? = some (id, .fault error) →
    step.registry = registry ∧ (step.ran = true → ∀ next definition,
      next.definition? = some (id, definition) → (step.registry.perform next).ran = true)
  /-- What `get` answers was put last under the id. -/
  get_eq : ∀ id, operation = .get id → registry.unavailable = false →
    step.answer = .value (.lookup (lastPut history id))
  /-- It is the schema that the operation which put it answered, and no other has its number. -/
  same : (∀ id found, operation.answersFor? = some id → step.answer = .value (.schema found) →
      lastPut (history ++ [operation]) id = some found) ∧
    ((puts history).map (·.2.number)).Nodup
  /-- The size is the number of the ids under which something was put. -/
  size_eq : operation = .size → registry.unavailable = false →
    step.answer = .value (.count ((puts history).map (·.1)).dedup.length)
  /-- A document is checked against the schema that the id has right afterwards. -/
  validate_eq : ∀ id definition document context,
    operation = .validate id definition document context →
      (∀ found, step.registry.get id = .ok (some found) → step.answer
        = .ofExcept ((found.schema.validate document context).map .findings)) ∧
      ∀ messages, step.answer = .value (.findings messages) →
        ∃ found, step.registry.get id = .ok (some found) ∧
          found.schema.validate document context = .ok messages
  /-- Operations answer that the registry is unavailable if and only if a definition has aborted
  inside it before. -/
  unavailable_iff : step.answer = .failure .registryUnavailable ↔
    ∃ met ∈ trace {} history, Aborts met

/-- **The first definition of an id that succeeds is kept**, and a definition that aborts inside the
registry makes it unavailable for good. -/
theorem firstDefinitions (history : List Operation) (operation : Operation) :
    FirstDefinitions history operation (after {} history)
      ((after {} history).perform operation) where
  effect_eq := registry_perform _ operation
  of_find?_ne id hne := by
    rw [registry_perform] at hne ⊢
    cases heffect : (after {} history).effect operation with
    | nothing => rw [heffect] at hne; exact absurd rfl hne
    | breaks => rw [heffect] at hne; exact absurd rfl hne
    | puts other schema =>
      obtain ⟨havailable, hputs⟩ := of_effect_eq_puts heffect
      have hid : id = other := by
        by_contra hother
        rw [heffect, apply, find?_put, if_neg hother] at hne
        exact hne rfl
      subst hid
      exact ⟨havailable, _, by rw [apply, find?_put, if_pos rfl], hputs⟩
  ran_iff id definition hdefinition := ran_of_definition? hdefinition
  compiled_once := (nodup_compiled _).1
  fault id error hdefinition := by
    have hunchanged : ((after {} history).perform operation).registry = after {} history := by
      rw [registry_perform, effect_of_definition? hdefinition]
      split <;> rfl
    refine ⟨hunchanged, fun hran next definition hnext ↦ ?_⟩
    rw [hunchanged, ran_of_definition? hnext]
    exact (ran_of_definition? hdefinition).mp hran
  get_eq id hget havailable := by
    rw [hget, perform, get, if_neg (by simp [havailable]), find?_after]
    rfl
  same := by
    refine ⟨fun id found hid hanswer ↦ ?_, ?_⟩
    · rw [← find?_after, after_append_singleton, ← registry_perform]
      exact find?_perform_of_answer hid hanswer
    · rw [numbers_puts]
      exact List.nodup_range
  size_eq hsize havailable := by
    rw [hsize, perform, size, if_neg (by simp [havailable]), ← (keys_after history).length_eq,
      Entries.keys, List.length_map]
    rfl
  validate_eq id definition document context hvalidate := by
    rw [hvalidate]
    refine ⟨fun found hget ↦ ?_, fun messages hanswer ↦ ?_⟩
    · rw [perform, Step.map, validate_of_value (get_getOrCompile.mp hget), Answer.map_ofExcept]
    · obtain ⟨found, hvalue, hfound⟩ := Answer.map_eq_value_iff.mp hanswer
      obtain rfl := Reply.findings.inj hfound
      obtain ⟨schema, hschema, hresult⟩ := answer_validate_eq_value_iff.mp hvalue
      exact ⟨schema, get_getOrCompile.mpr hschema, hresult⟩
  unavailable_iff := by
    rw [← unavailable_after]
    constructor
    · intro hanswer
      by_contra havailable
      exact answer_perform_ne (by simpa using havailable) operation hanswer
    · exact fun h ↦ answer_perform_of_unavailable h operation

end Registry

end DocumentSchema
