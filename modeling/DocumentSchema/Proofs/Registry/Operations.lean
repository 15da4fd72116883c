import DocumentSchema.Registry

/-!
# Operations of a registry

Five operations share one registry. Each has one effect of three: it leaves the registry alone, it
puts a schema under an id, or it makes the registry unavailable. `Registry.effect` says which, and
looks at no more of the registry than whether it is available and whether the id has a schema;
`registry_perform` says that nothing else happens.

What an operation answers goes with its effect. The schema that is answered for an id is the one
that the id has afterwards, and that the registry is unavailable is answered exactly when it is.
-/

namespace DocumentSchema

/-! ## Operations -/

namespace Answer

variable {α β : Type} {form : α → β} {answer : Answer α}

def map (form : α → β) : Answer α → Answer β
  | value a => value (form a)
  | failure reason => failure reason
  | aborted => aborted

/-- The answer of an operation that runs no definition. -/
def ofExcept : Except Failure α → Answer α
  | .ok a => value a
  | .error reason => failure reason

theorem map_eq_value_iff {b : β} :
    answer.map form = value b ↔ ∃ a, answer = value a ∧ form a = b := by
  cases answer <;> simp [map]

theorem map_eq_failure_iff {reason : Failure} :
    answer.map form = failure reason ↔ answer = failure reason := by
  cases answer <;> simp [map]

theorem map_ofExcept (result : Except Failure α) :
    (ofExcept result).map form = ofExcept (result.map form) := by
  cases result <;> rfl

theorem ofExcept_eq_value_iff {result : Except Failure α} {a : α} :
    ofExcept result = value a ↔ result = .ok a := by
  cases result <;> simp [ofExcept]

theorem ofExcept_eq_failure_iff {result : Except Failure α} {reason : Failure} :
    ofExcept result = failure reason ↔ result = .error reason := by
  cases result <;> simp [ofExcept]

end Answer

namespace Registry

def Step.map {α β : Type} (form : α → β) (step : Step α) : Step β :=
  ⟨step.registry, step.ran, step.answer.map form⟩

/-- An operation and what it is given. A schema that is put in was made before. -/
inductive Operation where
  | getOrCompile (id : String) (definition : Definition)
  | insert (id : String) (schema : Schema)
  | get (id : String)
  | size
  | validate (id : String) (definition : Definition) (document : Json) (context : Members)

inductive Reply where
  | schema (found : Registered)
  | lookup (found : Option Registered)
  | count (number : Nat)
  | findings (messages : List Message)

def perform (registry : Registry) : Operation → Step Reply
  | .getOrCompile id definition => (registry.getOrCompile id definition).map .schema
  | .insert id schema => (registry.insert id (.made schema)).map .schema
  | .get id => ⟨registry, false, .ofExcept ((registry.get id).map .lookup)⟩
  | .size => ⟨registry, false, .ofExcept (registry.size.map .count)⟩
  | .validate id definition document context =>
    (registry.validate id definition document context).map .findings

/-- The definition that an operation is given, and the id that it is for. -/
def Operation.definition? : Operation → Option (String × Definition)
  | getOrCompile id definition | validate id definition _ _ => some (id, definition)
  | insert _ _ | get _ | size => none

/-- The id whose schema an operation answers. -/
def Operation.answersFor? : Operation → Option String
  | getOrCompile id _ | insert id _ => some id
  | get _ | size | validate _ _ _ _ => none

/-! ## Effects -/

/-- What an operation does to a registry. -/
inductive Effect where
  | nothing
  | puts (id : String) (schema : Schema)
  | breaks

/-- The effect of running a definition for an id. -/
def Effect.ofDefinition (id : String) : Definition → Effect
  | .made schema => .puts id schema
  | .fault _ => .nothing
  | .aborts => .breaks

/-- The effect of an operation: the first definition of an id that succeeds is put, a schema that is
put in replaces the one that is there, and nothing happens any more once the registry is
unavailable. -/
def effect (registry : Registry) : Operation → Effect
  | .getOrCompile id definition | .validate id definition _ _ =>
    if registry.unavailable || (registry.find? id).isSome then .nothing
    else .ofDefinition id definition
  | .insert id schema => if registry.unavailable then .nothing else .puts id schema
  | .get _ | .size => .nothing

def apply (registry : Registry) : Effect → Registry
  | .nothing => registry
  | .puts id schema => registry.put id schema
  | .breaks => { registry with unavailable := true }

variable {registry : Registry} {operation : Operation} {id : String} {definition : Definition}

/-! ## Asking for a schema -/

theorem getOrCompile_of_unavailable (h : registry.unavailable = true) :
    registry.getOrCompile id definition = ⟨registry, false, .failure .registryUnavailable⟩ := by
  rw [getOrCompile.eq_def, if_pos h]

theorem getOrCompile_of_found (h : registry.unavailable = false) {found : Registered}
    (hfound : registry.find? id = some found) :
    registry.getOrCompile id definition = ⟨registry, false, .value found⟩ := by
  rw [getOrCompile.eq_def, if_neg (by simp [h]), hfound]

theorem getOrCompile_of_absent (h : registry.unavailable = false)
    (habsent : registry.find? id = none) :
    registry.getOrCompile id definition =
      ⟨registry.apply (.ofDefinition id definition), true, match definition with
        | .made schema => .value ⟨registry.next, schema⟩
        | .fault error => .failure (.schema error)
        | .aborts => .aborted⟩ := by
  rw [getOrCompile.eq_def, if_neg (by simp [h]), habsent]
  cases definition <;> rfl

theorem ran_getOrCompile :
    (registry.getOrCompile id definition).ran = true ↔
      registry.unavailable = false ∧ registry.find? id = none := by
  cases h : registry.unavailable with
  | true => simp [getOrCompile_of_unavailable h]
  | false =>
    cases hfind : registry.find? id with
    | some found => simp [getOrCompile_of_found h hfind]
    | none => simp [getOrCompile_of_absent h hfind]

private theorem registry_getOrCompile :
    (registry.getOrCompile id definition).registry = registry.apply
      (if registry.unavailable || (registry.find? id).isSome then .nothing
        else .ofDefinition id definition) := by
  cases h : registry.unavailable with
  | true => simp [getOrCompile_of_unavailable h, apply]
  | false =>
    cases hfind : registry.find? id with
    | some found => simp [getOrCompile_of_found h hfind, apply]
    | none => simp [getOrCompile_of_absent h hfind]

/-- **An operation has its effect**, and no other. -/
theorem registry_perform (registry : Registry) (operation : Operation) :
    (registry.perform operation).registry = registry.apply (registry.effect operation) := by
  cases operation with
  | getOrCompile id definition => exact registry_getOrCompile
  | validate id definition document context => exact registry_getOrCompile
  | insert id schema =>
    rw [perform, Step.map, insert, effect]
    split <;> rfl
  | get id => rfl
  | size => rfl

/-- What puts a schema under an id is that schema, or the first definition of the id. -/
theorem of_effect_eq_puts {schema : Schema} (h : registry.effect operation = .puts id schema) :
    registry.unavailable = false ∧ (operation = .insert id schema ∨
      registry.find? id = none ∧ operation.definition? = some (id, .made schema)) := by
  have hcompile : ∀ {other : String} {definition : Definition},
      (if registry.unavailable || (registry.find? other).isSome then .nothing
        else Effect.ofDefinition other definition) = .puts id schema →
      registry.unavailable = false ∧ registry.find? id = none ∧ other = id ∧
        definition = .made schema := by
    intro other definition h
    split at h
    · cases h
    · rename_i hrun
      rw [Bool.or_eq_true, not_or, Bool.not_eq_true, Option.not_isSome_iff_eq_none] at hrun
      cases definition with
      | made made =>
        obtain ⟨rfl, rfl⟩ := Effect.puts.inj h
        exact ⟨hrun.1, hrun.2, rfl, rfl⟩
      | fault error => cases h
      | aborts => cases h
  cases operation with
  | insert other made =>
    rw [effect] at h
    split at h
    · cases h
    · rename_i havailable
      obtain ⟨rfl, rfl⟩ := Effect.puts.inj h
      exact ⟨by simpa using havailable, .inl rfl⟩
  | getOrCompile other definition =>
    obtain ⟨havailable, habsent, rfl, rfl⟩ := hcompile h
    exact ⟨havailable, .inr ⟨habsent, rfl⟩⟩
  | validate other definition document context =>
    obtain ⟨havailable, habsent, rfl, rfl⟩ := hcompile h
    exact ⟨havailable, .inr ⟨habsent, rfl⟩⟩
  | get id => cases h
  | size => cases h

theorem effect_of_definition? (h : operation.definition? = some (id, definition)) :
    registry.effect operation = if registry.unavailable || (registry.find? id).isSome then .nothing
      else .ofDefinition id definition := by
  cases operation with
  | getOrCompile other given | validate other given _ _ =>
    obtain ⟨rfl, rfl⟩ := Prod.mk.inj (Option.some.inj h)
    rfl
  | insert _ _ | get _ | size => cases h

theorem ran_of_definition? (h : operation.definition? = some (id, definition)) :
    (registry.perform operation).ran = true ↔
      registry.unavailable = false ∧ registry.find? id = none := by
  cases operation with
  | getOrCompile other given | validate other given _ _ =>
    obtain ⟨rfl, rfl⟩ := Prod.mk.inj (Option.some.inj h)
    exact ran_getOrCompile
  | insert _ _ | get _ | size => cases h

/-! ## Answers -/

theorem validate_ne_registryUnavailable (schema : Schema) (document : Json) (context : Members) :
    schema.validate document context ≠ .error .registryUnavailable := by
  rw [Schema.validate.eq_def]
  split
  · dsimp only
    split
    · rintro ⟨⟩
    · rintro ⟨⟩
  · rintro ⟨⟩

/-- Once the registry is unavailable, every operation answers that and does nothing. -/
theorem answer_perform_of_unavailable (h : registry.unavailable = true) (operation : Operation) :
    (registry.perform operation).answer = .failure .registryUnavailable := by
  cases operation with
  | getOrCompile id definition =>
    rw [perform, getOrCompile_of_unavailable h]
    rfl
  | insert id schema =>
    rw [perform, insert, if_pos h]
    rfl
  | get id =>
    rw [perform, get, if_pos h]
    rfl
  | size =>
    rw [perform, size, if_pos h]
    rfl
  | validate id definition document context =>
    rw [perform, validate, getOrCompile_of_unavailable h]
    rfl

theorem validate_of_value {found : Registered}
    (h : (registry.getOrCompile id definition).answer = .value found) (document : Json)
    (context : Members) :
    (registry.validate id definition document context).answer
      = .ofExcept (found.schema.validate document context) := by
  rw [validate]
  simp only [h]
  cases found.schema.validate document context <;> rfl

theorem answer_getOrCompile_ne (h : registry.unavailable = false) :
    (registry.getOrCompile id definition).answer ≠ .failure .registryUnavailable := by
  cases hfind : registry.find? id with
  | some found => simp [getOrCompile_of_found h hfind]
  | none =>
    rw [getOrCompile_of_absent h hfind]
    cases definition <;> simp

theorem answer_validate_ne {document : Json} {context : Members}
    (h : registry.unavailable = false) :
    (registry.validate id definition document context).answer
      ≠ .failure .registryUnavailable := by
  have hasked : (registry.getOrCompile id definition).answer ≠ _ := answer_getOrCompile_ne h
  cases hanswer : (registry.getOrCompile id definition).answer with
  | value found =>
    rw [validate_of_value hanswer, ne_eq, Answer.ofExcept_eq_failure_iff]
    exact validate_ne_registryUnavailable found.schema document context
  | failure reason =>
    rw [hanswer] at hasked
    simpa [validate, hanswer] using hasked
  | aborted => simp [validate, hanswer]

theorem answer_perform_ne (h : registry.unavailable = false) (operation : Operation) :
    (registry.perform operation).answer ≠ .failure .registryUnavailable := by
  cases operation with
  | getOrCompile id definition =>
    exact mt Answer.map_eq_failure_iff.mp (answer_getOrCompile_ne h)
  | validate id definition document context =>
    exact mt Answer.map_eq_failure_iff.mp (answer_validate_ne h)
  | insert id schema =>
    rw [perform, insert, if_neg (by simp [h])]
    simp [Step.map, Answer.map]
  | get id => simp [perform, get, h, Except.map, Answer.ofExcept]
  | size => simp [perform, size, h, Except.map, Answer.ofExcept]

theorem get_eq_ok_iff {found : Option Registered} :
    registry.get id = .ok found ↔ registry.unavailable = false ∧ registry.find? id = found := by
  rw [get]
  cases registry.unavailable <;> simp

/-- The schema that is answered for an id is the one that `get` finds right afterwards. -/
theorem get_getOrCompile {found : Registered} :
    (registry.getOrCompile id definition).registry.get id = .ok (some found) ↔
      (registry.getOrCompile id definition).answer = .value found := by
  cases havailable : registry.unavailable with
  | true => simp [getOrCompile_of_unavailable havailable, get, havailable]
  | false =>
    cases hfind : registry.find? id with
    | some value => simp [getOrCompile_of_found havailable hfind, get, havailable, hfind]
    | none =>
      rw [getOrCompile_of_absent havailable hfind]
      cases definition with
      | made schema => simp [apply, Effect.ofDefinition, get, put, havailable, find?,
          Entries.get?_insert]
      | fault error => simp [apply, Effect.ofDefinition, get, havailable, hfind]
      | aborts => simp [apply, Effect.ofDefinition, get]

theorem find?_perform_of_answer {found : Registered} (hid : operation.answersFor? = some id)
    (h : (registry.perform operation).answer = .value (.schema found)) :
    (registry.perform operation).registry.find? id = some found := by
  cases operation with
  | get id => cases hid
  | size => cases hid
  | validate id definition document context => cases hid
  | getOrCompile other definition =>
    obtain rfl := Option.some.inj hid
    obtain ⟨value, hvalue, hfound⟩ := Answer.map_eq_value_iff.mp h
    obtain rfl := Reply.schema.inj hfound
    exact (get_eq_ok_iff.mp (get_getOrCompile.mpr hvalue)).2
  | insert other schema =>
    obtain rfl := Option.some.inj hid
    obtain ⟨value, hvalue, hfound⟩ := Answer.map_eq_value_iff.mp h
    obtain rfl := Reply.schema.inj hfound
    rw [insert] at hvalue
    rw [perform, Step.map, insert]
    split at hvalue
    · cases hvalue
    · rename_i havailable
      obtain rfl := Answer.value.inj hvalue
      rw [if_neg havailable, find?_put, if_pos rfl]

/-- The answer of `validate` has findings only if the schema is there and finds them. -/
theorem answer_validate_eq_value_iff {document : Json} {context : Members}
    {messages : List Message} :
    (registry.validate id definition document context).answer = .value messages ↔
      ∃ found, (registry.getOrCompile id definition).answer = .value found ∧
        found.schema.validate document context = .ok messages := by
  cases hanswer : (registry.getOrCompile id definition).answer with
  | value found =>
    rw [validate_of_value hanswer, Answer.ofExcept_eq_value_iff]
    simp
  | failure reason => simp [validate, hanswer]
  | aborted => simp [validate, hanswer]

end Registry

end DocumentSchema
