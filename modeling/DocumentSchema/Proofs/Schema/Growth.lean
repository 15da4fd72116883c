import DocumentSchema.Proofs.Schema.Confluence

/-!
# Schemas only grow

A declaration may fail anywhere on its walk, and what was met before stays. So what holds of a
schema between two declarations has to be kept by every single demand that is met, and it is there
that everything in this module is proved.

`Schema.Grows` says what a demand never takes back: the places of paths in the order, what is known
of presence and of null, and the rules for each type, where one that was named stays named.
`Schema.Sound` says what holds at every moment, whatever failed before: paths are listed once and
stand on known paths, there is one rule for a kind of container at most, and the root is not
optional.
-/

namespace DocumentSchema

open DocumentSchema.Path

/-! ## Rules of a type -/

namespace FieldDefinition

variable {field : FieldDefinition} {rule : Rule} {type : BaseType}

/-- There is a rule of a type that a declaration named. -/
def hasNamedRuleFor (field : FieldDefinition) (type : BaseType) : Bool :=
  field.rules.any fun rule ↦ rule.type = type && !rule.implicit

theorem hasNamedRuleFor_iff : field.hasNamedRuleFor type = true ↔
    ∃ rule ∈ field.rules, rule.type = type ∧ rule.implicit = false := by
  simp [hasNamedRuleFor]

/-- A rule that is named replaces only rules of its type, and one that is not replaces none. -/
theorem hasNamedRuleFor_addRule : (field.addRule rule).hasNamedRuleFor type = true ↔
    field.hasNamedRuleFor type = true ∨ rule.type = type ∧ rule.implicit = false := by
  rw [addRule]
  cases himplicit : rule.implicit with
  | true =>
    rw [if_pos rfl, addImplicit]
    split
    · simp
    · simp [hasNamedRuleFor, himplicit]
  | false =>
    rw [if_neg (by decide), addExplicit]
    by_cases htype : rule.type = type
    · simp [hasNamedRuleFor, htype, himplicit]
    · split
      · simp only [hasNamedRuleFor_iff, List.mem_append, List.mem_filter, List.mem_singleton,
          decide_eq_true_eq]
        constructor
        · rintro ⟨other, ⟨hother, -⟩ | rfl, hsame⟩
          · exact Or.inl ⟨other, hother, hsame⟩
          · exact Or.inr ⟨hsame.1, trivial⟩
        · rintro (⟨other, hother, rfl, hnamed⟩ | ⟨hsame, -⟩)
          · exact ⟨other, Or.inl ⟨hother, Ne.symm htype⟩, rfl, hnamed⟩
          · exact absurd hsame htype
      · simp [hasNamedRuleFor, htype]

theorem count_types (field : FieldDefinition) (type : BaseType) :
    field.types.count type = (field.checksOf type).length := by
  rw [types, checksOf, List.length_map, List.count_eq_length_filter, List.filter_map,
    List.length_map]
  rfl

theorem implicit_iff (hsingle : field.types.count type ≤ 1) (hrule : rule ∈ field.rules)
    (htype : rule.type = type) :
    rule.implicit = true ↔ field.hasNamedRuleFor type = false := by
  rw [Bool.eq_false_iff, ne_eq, hasNamedRuleFor_iff]
  constructor
  · rintro himplicit ⟨other, hother, hothertype, hnamed⟩
    rw [count_types, checksOf, List.length_map] at hsingle
    have hmem : rule ∈ field.rules.filter (·.type = type) := by simp [hrule, htype]
    have hothermem : other ∈ field.rules.filter (·.type = type) := by simp [hother, hothertype]
    obtain ⟨only, honly⟩ := List.length_eq_one_iff.mp
      (Nat.le_antisymm hsingle (List.length_pos_of_mem hmem))
    rw [honly, List.mem_singleton] at hmem hothermem
    rw [hmem, ← hothermem, hnamed] at himplicit
    cases himplicit
  · intro hnone
    by_contra himplicit
    exact hnone ⟨rule, hrule, htype, by simpa using himplicit⟩

end FieldDefinition

@[simp] theorem ContainerKind.isStructural_type (kind : ContainerKind) :
    kind.type.isStructural = true := by
  cases kind <;> rfl

/-- A kind of container has one check at most, whichever rule comes next. -/
theorem Rule.card_placeAt_le (rule : Rule) {kind : ContainerKind} {checks : Multiset Check}
    (h : checks.card ≤ 1) : (rule.placeAt kind.type checks).card ≤ 1 := by
  by_cases htype : rule.type = kind.type
  · rw [← htype]
    cases himplicit : rule.implicit with
    | true =>
      rw [placeAt_implicit himplicit]
      split
      · rw [Multiset.card_singleton]
      · exact h
    | false =>
      have hstructural : rule.type.isStructural = true := htype ▸ kind.isStructural_type
      rw [placeAt_structural himplicit hstructural, Multiset.card_singleton]
  · rwa [placeAt_of_ne htype]

/-! ## What a demand never takes back -/

namespace FieldDefinition

variable {field next last : FieldDefinition}

/-- What is kept of a definition in a later one. -/
structure Grows (field next : FieldDefinition) : Prop where
  strictness : field.strictness ≠ .unknown → next.strictness = field.strictness
  nullable : field.nullable = true → next.nullable = true
  rule : ∀ {type}, field.hasRuleFor type = true → next.hasRuleFor type = true
  named : ∀ {type}, field.hasNamedRuleFor type = true → next.hasNamedRuleFor type = true

theorem Grows.refl (field : FieldDefinition) : field.Grows field := ⟨fun _ ↦ rfl, id, id, id⟩

theorem Grows.trans (h : field.Grows next) (hnext : next.Grows last) : field.Grows last where
  strictness hne := by
    have hsame := h.strictness hne
    rw [hnext.strictness (hsame ▸ hne), hsame]
  nullable hnullable := hnext.nullable (h.nullable hnullable)
  rule hrule := hnext.rule (h.rule hrule)
  named hnamed := hnext.named (h.named hnamed)

end FieldDefinition

namespace Demand

theorem hasNamedRuleFor_update (demand : Demand) (field : FieldDefinition) (type : BaseType) :
    (demand.update field).hasNamedRuleFor type = true ↔ field.hasNamedRuleFor type = true ∨
      ∃ rule, demand.rule? = some rule ∧ rule.type = type ∧ rule.implicit = false := by
  rw [FieldDefinition.hasNamedRuleFor, rules_update, ← FieldDefinition.hasNamedRuleFor, place]
  cases demand.rule? with
  | none => simp
  | some rule => simp [FieldDefinition.hasNamedRuleFor_addRule]

/-- **A demand takes nothing back.** -/
theorem grows_update (demand : Demand) (field : FieldDefinition) :
    field.Grows (demand.update field) where
  strictness hne := by rw [strictness_update, if_neg hne]
  nullable hnullable := by rw [nullable_update, hnullable, Bool.true_or]
  rule := demand.hasRuleFor_update
  named hnamed := (demand.hasNamedRuleFor_update field _).mpr (Or.inl hnamed)

theorem count_types_update_le (demand : Demand) {field : FieldDefinition} {kind : ContainerKind}
    (h : field.types.count kind.type ≤ 1) : (demand.update field).types.count kind.type ≤ 1 := by
  rw [FieldDefinition.count_types] at h ⊢
  rw [← Multiset.coe_card, checksOf_update, placeAt]
  cases demand.rule? with
  | none => exact h
  | some rule => exact rule.card_placeAt_le h

end Demand

namespace Schema

variable {schema next last : Schema} {demands : List Demand}

/-- What is kept of a schema in a later one. Paths keep their places, and new ones come after
them. -/
structure Grows (schema next : Schema) : Prop where
  paths : schema.paths <+: next.paths
  entry : ∀ path, (schema.entry path).Grows (next.entry path)

theorem Grows.refl (schema : Schema) : schema.Grows schema :=
  ⟨List.prefix_rfl, fun _ ↦ .refl _⟩

theorem Grows.trans (h : schema.Grows next) (hnext : next.Grows last) : schema.Grows last :=
  ⟨h.paths.trans hnext.paths, fun path ↦ (h.entry path).trans (hnext.entry path)⟩

theorem grows_set (schema : Schema) (demand : Demand) :
    schema.Grows (schema.set demand.path (demand.update (schema.entry demand.path))) where
  paths := by
    rw [paths_set]
    split
    · exact List.prefix_rfl
    · exact List.prefix_append ..
  entry path := by
    rw [entry_set]
    split
    · rename_i heq
      exact heq ▸ demand.grows_update _
    · exact .refl _

theorem grows_meetAll (schema : Schema) (demands : List Demand) :
    schema.Grows (schema.meetAll demands).1 :=
  meetAll_preserves (.refl schema) fun _ h ↦ h.trans (grows_set _ _)

/-- **A declaration takes nothing back**, whether it succeeds or fails. -/
theorem grows_declare (schema : Schema) (declaration : Declaration) :
    schema.Grows (schema.declare declaration).1 := by
  cases declaration with
  | ignoreExtraFields => exact ⟨List.prefix_rfl, fun _ ↦ .refl _⟩
  | field path presence type =>
    rw [Schema.declare, declareField_eq]
    cases fieldWalk path presence type with
    | error error => exact .refl schema
    | ok demands => exact schema.grows_meetAll demands

/-! ## What holds at every moment -/

theorem strictness_of_fieldWalk_root {path : String} {presence : Presence} {type : FieldType}
    (h : fieldWalk path presence type = .ok demands) {demand : Demand} (hdemand : demand ∈ demands)
    (hroot : demand.path = root) : demand.strictness = .required := by
  obtain ⟨hpresence, ⟨parsed, hparsed⟩, resolved, -, rfl⟩ := fieldWalk_eq_ok_iff.mp h
  have hne := normalize_ne_empty (trim path)
  rw [walk, List.mem_append, List.mem_cons] at hdemand
  rcases hdemand with helement | rfl | habove
  · split at helement
    · have hbelow := isRoot_element (normalize (trim path))
      obtain rfl := List.mem_singleton.mp helement
      rw [show element (normalize (trim path)) = root from hroot, isRoot_root] at hbelow
      cases hbelow
    · cases helement
  · -- The root itself is declared, and it cannot be declared optional.
    have htop : isRoot (trim path) = true := isRoot_of_normalize_eq_root hroot
    cases presence with
    | required => rfl
    | optional => exact absurd ⟨rfl, htop⟩ hpresence
  · exact strictness_of_mem_containersAbove_root (isTemplate_of_segments hparsed hne)
      (head?_steps_of_segments hparsed hne) habove hroot

/-- No path has two rules for one kind of container. -/
def SingleContainers (schema : Schema) : Prop :=
  ∀ path (kind : ContainerKind), (schema.entry path).types.count kind.type ≤ 1

theorem singleContainers_start (ignoreExtraFields : Bool) :
    SingleContainers { ignoreExtraFields } := fun _ _ ↦ Nat.zero_le 1

theorem SingleContainers.set (h : schema.SingleContainers) (demand : Demand) :
    (schema.set demand.path (demand.update (schema.entry demand.path))).SingleContainers := by
  intro path kind
  rw [entry_set]
  split
  · exact demand.count_types_update_le (h demand.path kind)
  · exact h path kind

theorem SingleContainers.meetAll (h : schema.SingleContainers) (demands : List Demand) :
    (schema.meetAll demands).1.SingleContainers :=
  meetAll_preserves h fun _ hsingle ↦ hsingle.set _

theorem Reachable.singleContainers (h : schema.Reachable) : schema.SingleContainers :=
  h.of_demands (singleContainers_start false) id fun _ _ _ hsingle ↦ hsingle.set _

theorem Reachable.strictness_root_ne (h : schema.Reachable) :
    (schema.entry root).strictness ≠ .optional := by
  refine h.of_demands (motive := fun schema ↦ (schema.entry root).strictness ≠ .optional)
    (by decide) id ?_
  intro schema _ _ _ _ hwalk demand hdemand hstrictness
  rw [entry_set]
  split
  · rename_i heq
    rw [Demand.strictness_update, ← heq, strictness_of_fieldWalk_root hwalk hdemand heq.symm]
    split
    · decide
    · exact hstrictness
  · exact hstrictness

/-- What holds of a schema between two declarations, whether they succeed or fail. -/
structure Sound (schema : Schema) : Prop where
  /-- A path that is known is listed once, and no other path is listed. -/
  listedOnce : ∀ path, schema.paths.count path = if (schema.field? path).isSome then 1 else 0
  /-- What a known path lies directly below is known. -/
  parentKnown : ∀ path ∈ schema.paths, path ≠ root →
    ∃ parent ∈ schema.paths, parent? path = some parent
  containerOnce : ∀ path (kind : ContainerKind), (schema.entry path).types.count kind.type ≤ 1
  rootNotOptional : (schema.entry root).strictness ≠ .optional

theorem Reachable.sound (h : schema.Reachable) : schema.Sound where
  listedOnce path := by
    cases hfield : schema.field? path with
    | none => rw [List.count_eq_zero_of_not_mem (field?_eq_none_iff.mp hfield)]; rfl
    | some field =>
      have hpath : path ∈ schema.paths := by
        by_contra hnot
        rw [field?_eq_none_iff.mpr hnot] at hfield
        cases hfield
      rw [List.count_eq_one_of_mem h.nodup_paths hpath]
      rfl
  parentKnown path hpath hne := by
    obtain ⟨parent, hparent, step, hstep, rfl, -⟩ := (h.grounded path hpath).2.resolve_left hne
    exact ⟨parent, hparent, parent?_down (h.grounded.isTemplate hparent) hstep⟩
  containerOnce := h.singleContainers
  rootNotOptional := h.strictness_root_ne

/-- **Every moment in the making of a schema is sound, and every declaration only adds.** A
declaration that fails leaves a schema of which the same is true. A rule for a kind of container
that was named is not replaced by one that nobody named. -/
theorem Reachable.sound_and_grows (h : schema.Reachable) :
    schema.Sound ∧ ∀ declaration, schema.Grows (schema.declare declaration).1 ∧
      ∀ path (kind : ContainerKind), (schema.entry path).hasNamedRuleFor kind.type = true →
        ∀ rule ∈ ((schema.declare declaration).1.entry path).rules, rule.type = kind.type →
          rule.implicit = false := by
  refine ⟨h.sound, fun declaration ↦ ⟨schema.grows_declare declaration, ?_⟩⟩
  intro path kind hnamed rule hrule htype
  have hafter := (h.declare declaration).singleContainers path kind
  have hkept := ((schema.grows_declare declaration).entry path).named hnamed
  rw [← Bool.not_eq_true, FieldDefinition.implicit_iff hafter hrule htype, hkept]
  decide

/-- The elements of a required list are declared to hold optional elements, which fails halfway: the
inner elements are known from then on. The list was named, and stays so when it is needed again. -/
theorem sound_and_grows_halfway :
    let before := (({} : Schema).declare (.field "a" .required (.named "list"))).1
    let failing := Declaration.field "a[][]" .optional .untyped
    let after := (before.declare failing).1
    let last := (after.declare (.field "a[].b" .required .untyped)).1
    (before.declare failing).2 = .error (.alreadyRequired "a") ∧ after.knows "a[][]" = true ∧
      after.Sound ∧ after.Grows last ∧
      ∀ rule ∈ (last.entry "a").rules, rule.type = .list → rule.implicit = false := by
  intro before failing after last
  have hreachable : after.Reachable := .declare _ (.declare _ .empty)
  obtain ⟨hsound, hdeclare⟩ := hreachable.sound_and_grows
  obtain ⟨hgrows, hnamed⟩ := hdeclare (.field "a[].b" .required .untyped)
  exact ⟨rfl, rfl, hsound, hgrows, hnamed "a" .list rfl⟩

end Schema

end DocumentSchema
