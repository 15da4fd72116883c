import DocumentSchema.Proofs.Path.Grammar
import DocumentSchema.Proofs.Schema.Walk

/-!
# Schemas that declarations lead to

`Schema.Reachable` holds of every schema that some sequence of declarations leads to, where each
may fail and the next goes on from what it left. A schema that is compiled is one of these, and of
those whose declarations all succeed more is true: whatever lies above a known path has a rule for
the kind of container that the path needs it to be.
-/

namespace DocumentSchema

open DocumentSchema.Path

/-! ## Rules -/

namespace FieldDefinition

variable {field : FieldDefinition} {rule : Rule} {type : BaseType}

theorem hasRuleFor_iff : field.hasRuleFor type = true ↔ ∃ rule ∈ field.rules, rule.type = type := by
  simp [hasRuleFor]

theorem mem_rules_addRule {other : Rule} (h : other ∈ (field.addRule rule).rules) :
    other ∈ field.rules ∨ other = rule := by
  rw [addRule] at h
  split at h
  · rw [addImplicit] at h
    split at h
    · exact Or.inl h
    · rcases List.mem_append.mp h with h | h
      · exact Or.inl h
      · exact Or.inr (List.mem_singleton.mp h)
  · rw [addExplicit] at h
    rcases List.mem_append.mp h with h | h
    · split at h
      · exact Or.inl (List.mem_filter.mp h).1
      · exact Or.inl h
    · exact Or.inr (List.mem_singleton.mp h)

/-- A rule that is added stands for its type, and no type loses its last rule. -/
theorem hasRuleFor_addRule :
    (field.addRule rule).hasRuleFor type = true ↔
      field.hasRuleFor type = true ∨ rule.type = type := by
  rw [hasRuleFor_iff, hasRuleFor_iff]
  constructor
  · rintro ⟨other, hother, rfl⟩
    rcases mem_rules_addRule hother with hother | rfl
    · exact Or.inl ⟨other, hother, rfl⟩
    · exact Or.inr rfl
  · intro h
    rw [addRule]
    split
    · rw [addImplicit]
      split
      · rename_i hrule
        rcases h with h | rfl
        · exact h
        · exact hasRuleFor_iff.mp hrule
      · rcases h with ⟨other, hother, htype⟩ | htype
        · exact ⟨other, List.mem_append_left _ hother, htype⟩
        · exact ⟨rule, by simp, htype⟩
    · rw [addExplicit]
      by_cases htype : rule.type = type
      · exact ⟨rule, by simp, htype⟩
      · -- A named container rule replaces only rules of its own type.
        obtain ⟨other, hother, hothertype⟩ := h.resolve_right htype
        refine ⟨other, List.mem_append_left _ ?_, hothertype⟩
        split
        · refine List.mem_filter.mpr ⟨hother, ?_⟩
          rw [decide_eq_true_eq, hothertype]
          exact Ne.symm htype
        · exact hother

end FieldDefinition

namespace Demand

def rule? (demand : Demand) : Option Rule :=
  match demand.part with
  | .element => none
  | .declared type => some ⟨type.type, type.nullable, type.implicit, type.check⟩
  | .container kind => some ⟨kind.type, false, true, kind.check⟩

def place (demand : Demand) (field : FieldDefinition) : FieldDefinition :=
  match demand.rule? with
  | none => field
  | some rule => field.addRule rule

@[simp] theorem rules_settle (field : FieldDefinition) (strictness : Strictness) :
    (field.settle strictness).rules = field.rules := by
  rw [FieldDefinition.settle]
  split <;> rfl

theorem rules_update (demand : Demand) (field : FieldDefinition) :
    (demand.update field).rules = (demand.place field).rules := by
  rw [update, rules_settle, place, rule?]
  cases demand.part <;> rfl

theorem mem_rules_update {demand : Demand} {field : FieldDefinition} {rule : Rule}
    (h : rule ∈ (demand.update field).rules) :
    rule ∈ field.rules ∨ demand.rule? = some rule := by
  rw [rules_update, place] at h
  cases hrule : demand.rule? with
  | none => rw [hrule] at h; exact Or.inl h
  | some added =>
    rw [hrule] at h
    rcases FieldDefinition.mem_rules_addRule h with h | rfl
    · exact Or.inl h
    · exact Or.inr rfl

theorem hasRuleFor_update (demand : Demand) {field : FieldDefinition} {type : BaseType}
    (h : field.hasRuleFor type = true) : (demand.update field).hasRuleFor type = true := by
  rw [FieldDefinition.hasRuleFor, rules_update, place]
  cases demand.rule? with
  | none => exact h
  | some rule => exact FieldDefinition.hasRuleFor_addRule.mpr (Or.inl h)

theorem Backs.hasRuleFor_update {demand : Demand} {kind : ContainerKind} (h : demand.Backs kind)
    (field : FieldDefinition) : (demand.update field).hasRuleFor kind.type = true := by
  obtain ⟨path, strictness, part⟩ := demand
  rw [FieldDefinition.hasRuleFor, rules_update, place, rule?]
  cases part with
  | element => exact absurd h id
  | declared type => exact FieldDefinition.hasRuleFor_addRule.mpr (Or.inr h)
  | container other =>
    exact FieldDefinition.hasRuleFor_addRule.mpr (Or.inr (congrArg ContainerKind.type h))

theorem check_empty (demand : Demand) : demand.check {} = .ok () := by
  obtain ⟨path, strictness, part⟩ := demand
  rw [check]
  cases part with
  | element => rfl
  | container kind => rfl
  | declared type =>
    cases himplicit : type.implicit <;> simp [himplicit] <;> rfl

end Demand

/-! ## Meeting demands -/

namespace Schema

variable {schema result : Schema} {demand : Demand} {demands : List Demand}

theorem meet_eq (schema : Schema) (demand : Demand) :
    schema.meet demand = match demand.check (schema.entry demand.path) with
      | .ok _ => .ok (schema.set demand.path (demand.update (schema.entry demand.path)))
      | .error error => .error error := by
  rw [meet]
  cases demand.check (schema.entry demand.path) <;> rfl

theorem eq_set_of_meet_eq_ok (h : schema.meet demand = .ok result) :
    result = schema.set demand.path (demand.update (schema.entry demand.path)) := by
  rw [meet_eq] at h
  split at h
  · exact (Except.ok.inj h).symm
  · cases h

theorem check_of_meet_eq_ok (h : schema.meet demand = .ok result) :
    demand.check (schema.entry demand.path) = .ok () := by
  rw [meet_eq] at h
  split at h
  · rename_i hcheck
    exact hcheck
  · cases h

theorem mem_paths_of_meet_eq_error {error : SchemaError} (h : schema.meet demand = .error error) :
    demand.path ∈ schema.paths := by
  by_contra hpath
  rw [meet_eq, entry_of_notMem hpath, demand.check_empty] at h
  cases h

theorem meetAll_append_ok {next : Schema} {first second : List Demand}
    (h : schema.meetAll first = (next, .ok ())) :
    schema.meetAll (first ++ second) = next.meetAll second := by
  induction first generalizing schema with
  | nil =>
    obtain rfl := (Prod.mk.inj h).1
    rfl
  | cons demand rest ih =>
    rw [List.cons_append]
    cases hmeet : schema.meet demand with
    | error error => rw [meetAll_cons_error hmeet] at h; cases h
    | ok met =>
      rw [meetAll_cons_ok hmeet] at h ⊢
      exact ih h

theorem meetAll_append_error {next : Schema} {first second : List Demand} {error : SchemaError}
    (h : schema.meetAll first = (next, .error error)) :
    schema.meetAll (first ++ second) = (next, .error error) := by
  induction first generalizing schema with
  | nil => cases h
  | cons demand rest ih =>
    rw [List.cons_append]
    cases hmeet : schema.meet demand with
    | error fault => rw [meetAll_cons_error hmeet] at h ⊢; exact h
    | ok met =>
      rw [meetAll_cons_ok hmeet] at h ⊢
      exact ih h

/-- What each demand that is met preserves, demands in order preserve, up to where they stop. -/
theorem meetAll_preserves {motive : Schema → Prop} (h : motive schema)
    (step : ∀ {schema : Schema} {demand : Demand}, demand ∈ demands → motive schema →
      motive (schema.set demand.path (demand.update (schema.entry demand.path)))) :
    motive (schema.meetAll demands).1 := by
  induction demands generalizing schema with
  | nil => exact h
  | cons demand rest ih =>
    cases hmeet : schema.meet demand with
    | error error => rw [meetAll_cons_error hmeet]; exact h
    | ok next =>
      rw [meetAll_cons_ok hmeet, eq_set_of_meet_eq_ok hmeet]
      exact ih (step List.mem_cons_self h) fun hdemand ↦ step (List.mem_cons_of_mem _ hdemand)

/-! ## Known paths stand on known paths -/

/-- Every known path is a template, and is the root or lies below a path that is known, which has a
rule for it if `rules` asks for one. -/
def Grounded (rules : Prop) (schema : Schema) : Prop :=
  ∀ path ∈ schema.paths, IsTemplate path ∧ (path = root ∨
    ∃ parent ∈ schema.paths, ∃ step : TemplateStep, step.IsWritable ∧ path = down parent step ∧
      (rules → (schema.entry parent).hasRuleFor step.container.type = true))

/-- The paths of a schema stand on known paths, or on the path that is about to be met. -/
private def GroundedOr (rules : Prop) (schema : Schema) (next : Option Demand) : Prop :=
  ∀ path ∈ schema.paths, IsTemplate path ∧ (path = root ∨
    ∃ parent, ∃ step : TemplateStep, step.IsWritable ∧ path = down parent step ∧
      ((parent ∈ schema.paths ∧
          (rules → (schema.entry parent).hasRuleFor step.container.type = true)) ∨
        ∃ demand, next = some demand ∧ demand.path = parent ∧ demand.Backs step.container))

private theorem Grounded.or {rules : Prop} (h : Grounded rules schema) (next : Option Demand) :
    GroundedOr rules schema next := by
  intro path hpath
  obtain ⟨htemplate, hground⟩ := h path hpath
  refine ⟨htemplate, hground.imp_right ?_⟩
  rintro ⟨parent, hparent, step, hstep, hdown, hrule⟩
  exact ⟨parent, step, hstep, hdown, Or.inl ⟨hparent, hrule⟩⟩

/-- What stands on the demand that is met stands on what is then known, and the path that is met
stands on the one above it, if there is one. -/
private theorem GroundedOr.set {rules : Prop} {next : Option Demand}
    (h : GroundedOr rules schema (some demand)) (htemplate : IsTemplate demand.path)
    (hnext : demand.path = root ∨ ∃ above, ∃ step : TemplateStep, next = some above ∧
      step.IsWritable ∧ demand.path = down above.path step ∧ above.Backs step.container) :
    GroundedOr rules (schema.set demand.path (demand.update (schema.entry demand.path))) next := by
  intro path hpath
  by_cases hmet : path = demand.path
  · subst hmet
    refine ⟨htemplate, hnext.imp_right ?_⟩
    rintro ⟨above, step, hnext, hstep, hdown, hbacks⟩
    exact ⟨above.path, step, hstep, hdown, Or.inr ⟨above, hnext, rfl, hbacks⟩⟩
  · obtain ⟨hpathtemplate, hground⟩ := h path ((mem_paths_set.mp hpath).resolve_left hmet)
    refine ⟨hpathtemplate, hground.imp_right ?_⟩
    rintro ⟨parent, step, hstep, hdown, hparent⟩
    refine ⟨parent, step, hstep, hdown, Or.inl ⟨?_, ?_⟩⟩
    · rcases hparent with ⟨hknown, -⟩ | ⟨_, hdemand, hparent, -⟩
      · exact mem_paths_set.mpr (Or.inr hknown)
      · obtain rfl := Option.some.inj hdemand
        exact mem_paths_set.mpr (Or.inl hparent.symm)
    · intro hrules
      rw [entry_set]
      -- The rule was there and is kept, or the demand that is met brings it.
      rcases hparent with ⟨-, hrule⟩ | ⟨_, hdemand, hparent, hbacks⟩
      · split
        · rename_i heq
          exact demand.hasRuleFor_update (heq ▸ hrule hrules)
        · exact hrule hrules
      · obtain rfl := Option.some.inj hdemand
        rw [if_pos hparent.symm]
        exact hbacks.hasRuleFor_update _

/-- Where nothing comes next, or what comes next was known before, known paths stand on known
paths. In the second case the walk has stopped, and nothing is said about rules. -/
private theorem GroundedOr.grounded {rules : Prop} {next : Option Demand}
    (h : GroundedOr rules schema next)
    (hnext : ∀ demand, next = some demand → demand.path ∈ schema.paths ∧ ¬rules) :
    Grounded rules schema := by
  intro path hpath
  obtain ⟨htemplate, hground⟩ := h path hpath
  refine ⟨htemplate, hground.imp_right ?_⟩
  rintro ⟨parent, step, hstep, hdown, ⟨hparent, hrule⟩ | ⟨demand, hdemand, hparent, -⟩⟩
  · exact ⟨parent, hparent, step, hstep, hdown, hrule⟩
  · obtain ⟨hknown, hrules⟩ := hnext demand hdemand
    exact ⟨parent, hparent ▸ hknown, step, hstep, hdown, fun h ↦ absurd h hrules⟩

/-- A walk that stops leaves known paths on known paths, since the demand that is not met was known
before. -/
private theorem GroundedOr.stopped {rules : Prop} {error : SchemaError}
    (h : GroundedOr rules schema (some demand)) (hmeet : schema.meet demand = .error error)
    (hrules : ¬rules) : Grounded rules schema := by
  refine h.grounded ?_
  rintro _ ⟨⟩
  exact ⟨mem_paths_of_meet_eq_error hmeet, hrules⟩

/-- The induction goes up the walk. What is known then stands on known paths or on the demand that
comes next; where the walk stops, that one was known before. -/
private theorem GroundedOr.meetAll {rules : Prop} (h : GroundedOr rules schema demands.head?)
    (hascent : Ascent demands) (hok : rules → (schema.meetAll demands).2 = .ok ()) :
    Grounded rules (schema.meetAll demands).1 := by
  induction hascent generalizing schema with
  | @root demand hroot =>
    cases hmeet : schema.meet demand with
    | error error =>
      rw [meetAll_cons_error hmeet] at hok ⊢
      exact h.stopped hmeet fun hrules ↦ nomatch hok hrules
    | ok next =>
      rw [meetAll_cons_ok hmeet, eq_set_of_meet_eq_ok hmeet]
      -- The walk ends at the root, which stands on nothing.
      have hset : GroundedOr rules _ none := h.set (hroot ▸ .root) (Or.inl hroot)
      exact hset.grounded fun _ hnone ↦ nomatch hnone
  | @up demand next rest step hstep hdown hbacks hrest ih =>
    cases hmeet : schema.meet demand with
    | error error =>
      rw [meetAll_cons_error hmeet] at hok ⊢
      exact h.stopped hmeet fun hrules ↦ nomatch hok hrules
    | ok met =>
      rw [meetAll_cons_ok hmeet, eq_set_of_meet_eq_ok hmeet] at hok ⊢
      have htemplate : IsTemplate demand.path := by
        rw [hdown]
        exact (hrest.isTemplate next List.mem_cons_self).down hstep
      exact ih (h.set htemplate (Or.inr ⟨next, step, rfl, hstep, hdown, hbacks⟩)) hok

/-- **A walk keeps known paths on known paths**, wherever it stops; and if it does not stop, each
of them has the rule that what lies below it needs. -/
theorem Grounded.meetAll {rules : Prop} (h : Grounded rules schema) (hascent : Ascent demands)
    (hok : rules → (schema.meetAll demands).2 = .ok ()) :
    Grounded rules (schema.meetAll demands).1 :=
  (h.or _).meetAll hascent hok

theorem Grounded.above {rules : Prop} (h : Grounded rules schema) {parent : String}
    {step : TemplateStep} (hparent : IsTemplate parent) (hstep : step.IsWritable)
    (hpath : down parent step ∈ schema.paths) :
    parent ∈ schema.paths ∧
      (rules → (schema.entry parent).hasRuleFor step.container.type = true) := by
  rcases (h _ hpath).2 with hroot | ⟨other, hother, last, hlast, hdown, hrule⟩
  · have hnot := isRoot_down parent hstep
    rw [hroot, isRoot_root] at hnot
    cases hnot
  · obtain ⟨rfl, rfl⟩ := (hparent.down_inj (h _ hother).1 hstep hlast).mp hdown
    exact ⟨hother, hrule⟩

theorem Grounded.isTemplate {rules : Prop} (h : Grounded rules schema) {path : String}
    (hpath : path ∈ schema.paths) : IsTemplate path := (h path hpath).1

/-! ## Declarations -/

/-- The walk of a declaration of a field, or what is wrong with the declaration by itself. -/
def fieldWalk (path : String) (presence : Presence) (type : FieldType) :
    Except SchemaError (List Demand) :=
  if presence = .optional && isRoot (trim path) then .error (.optionalNotAllowed root)
  else do
    let _ ← segments (normalize (trim path))
    let resolved ← type.resolve (normalize (trim path))
    return walk (normalize (trim path)) resolved presence.strictness

/-- **A declaration meets the demands of its walk**, if nothing is wrong with it by itself. -/
theorem declareField_eq (schema : Schema) (path : String) (presence : Presence)
    (type : FieldType) :
    schema.declareField path presence type = match fieldWalk path presence type with
      | .ok demands => schema.meetAll demands
      | .error error => (schema, .error error) := by
  simp only [declareField, fieldWalk]
  split
  · rfl
  · cases segments (normalize (trim path)) with
    | error error => rfl
    | ok parsed => cases type.resolve (normalize (trim path)) <;> rfl

theorem fieldWalk_eq_ok_iff {path : String} {presence : Presence} {type : FieldType} :
    fieldWalk path presence type = .ok demands ↔
      ¬(presence = .optional ∧ isRoot (trim path) = true) ∧
      (∃ parsed, segments (normalize (trim path)) = .ok parsed) ∧
      ∃ resolved, type.resolve (normalize (trim path)) = .ok resolved ∧
        demands = walk (normalize (trim path)) resolved presence.strictness := by
  rw [fieldWalk]
  by_cases hroot : presence = .optional ∧ isRoot (trim path) = true
  · rw [if_pos (by simpa using hroot)]
    exact ⟨(nomatch ·), fun h ↦ absurd hroot h.1⟩
  · rw [if_neg (by simpa using hroot)]
    simp only [bind_eq_ok_iff, pure_eq_ok_iff]
    constructor
    · rintro ⟨parsed, hparsed, resolved, hresolved, rfl⟩
      exact ⟨hroot, ⟨parsed, hparsed⟩, resolved, hresolved, rfl⟩
    · rintro ⟨-, ⟨parsed, hparsed⟩, resolved, hresolved, rfl⟩
      exact ⟨parsed, hparsed, resolved, hresolved, rfl⟩

theorem normalize_ne_empty (path : String) : Path.normalize path ≠ "" := by
  rw [Path.normalize]
  split
  · decide
  · rename_i h
    simpa using h

theorem isRoot_of_normalize_eq_root {path : String} (h : Path.normalize path = root) :
    isRoot path = true := by
  rw [Path.normalize] at h
  split at h
  · rename_i hempty
    rw [eq_of_beq hempty, isRoot_empty]
  · rw [h, isRoot_root]

theorem ascent_of_fieldWalk {path : String} {presence : Presence} {type : FieldType}
    (h : fieldWalk path presence type = .ok demands) : Ascent demands := by
  obtain ⟨-, ⟨parsed, hparsed⟩, resolved, -, rfl⟩ := fieldWalk_eq_ok_iff.mp h
  exact ascent_walk (isTemplate_of_segments hparsed (normalize_ne_empty _)) _ _

theorem Grounded.declare {rules : Prop} (h : Grounded rules schema) (declaration : Declaration)
    (hok : rules → (schema.declare declaration).2 = .ok ()) :
    Grounded rules (schema.declare declaration).1 := by
  cases declaration with
  | ignoreExtraFields => exact h
  | field path presence type =>
    rw [Schema.declare, declareField_eq] at hok ⊢
    cases hwalk : fieldWalk path presence type with
    | error error => exact h
    | ok demands =>
      rw [hwalk] at hok
      exact h.meetAll (ascent_of_fieldWalk hwalk) hok

/-! ## Reachable schemas -/

/-- Some sequence of declarations leads to the schema, where each may fail. -/
inductive Reachable : Schema → Prop
  | empty : Reachable {}
  | declare {schema : Schema} (declaration : Declaration) : Reachable schema →
      Reachable (schema.declare declaration).1

/-- What holds of a schema that knows nothing, and is kept by every demand of a walk and by ignoring
members, holds of every schema that declarations lead to. -/
theorem Reachable.of_demands {motive : Schema → Prop} (h : schema.Reachable) (empty : motive {})
    (ignore : ∀ {schema : Schema}, motive schema → motive { schema with ignoreExtraFields := true })
    (demand : ∀ {schema : Schema} {path : String} {presence : Presence} {type : FieldType}
      {demands : List Demand}, fieldWalk path presence type = .ok demands →
      ∀ demand ∈ demands, motive schema →
        motive (schema.set demand.path (demand.update (schema.entry demand.path)))) :
    motive schema := by
  induction h with
  | empty => exact empty
  | declare declaration _ ih =>
    cases declaration with
    | ignoreExtraFields => exact ignore ih
    | field path presence type =>
      rw [Schema.declare, declareField_eq]
      cases hwalk : fieldWalk path presence type with
      | error error => exact ih
      | ok demands =>
        exact meetAll_preserves ih fun hdemand hmotive ↦ demand hwalk _ hdemand hmotive

theorem Reachable.grounded (h : schema.Reachable) : Grounded False schema := by
  induction h with
  | empty => intro path hpath; cases hpath
  | declare declaration _ ih => exact ih.declare declaration False.elim

theorem Reachable.nodup_paths (h : schema.Reachable) : schema.paths.Nodup :=
  h.of_demands List.nodup_nil id fun _ _ _ hnodup ↦ Entries.nodup_keys_insert hnodup _ _

theorem declareAll_induction {motive : Schema → Prop}
    (step : ∀ {schema result : Schema} {declaration : Declaration}, motive schema →
      schema.declare declaration = (result, .ok ()) → motive result)
    (hschema : motive schema) {declarations : List Declaration}
    (hok : schema.declareAll declarations = .ok result) : motive result := by
  induction declarations generalizing schema with
  | nil => exact Except.ok.inj hok ▸ hschema
  | cons declaration rest ih =>
    rw [declareAll] at hok
    split at hok
    · rename_i next hnext
      exact ih (step hschema hnext) hok
    · cases hok

/-- **Compiled schemas are reachable.** -/
theorem reachable_of_compile {declarations : List Declaration}
    (h : compile declarations = .ok schema) : schema.Reachable := by
  refine declareAll_induction ?_ .empty h
  intro schema result declaration hreachable hok
  have hnext := hreachable.declare declaration
  rwa [hok] at hnext

/-- **In a compiled schema known paths have the rules that what lies below them needs.** -/
theorem grounded_of_compile {declarations : List Declaration}
    (h : compile declarations = .ok schema) : Grounded True schema := by
  refine declareAll_induction ?_ (fun _ hpath ↦ absurd hpath List.not_mem_nil) h
  intro schema result declaration hground hok
  have hnext := hground.declare declaration fun _ ↦ by rw [hok]
  rwa [hok] at hnext

end Schema

end DocumentSchema
