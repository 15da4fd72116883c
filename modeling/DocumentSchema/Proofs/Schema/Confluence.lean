import DocumentSchema.Proofs.Schema.Digest

/-!
# Demands in any order

Meeting demands does to a schema what folding them does to the digests of its paths: the definition
of a path follows its digest, and a demand can be met exactly if the digest after it holds no
contradiction. So demands that can be met in one order can be met in every order, and the schemas
that they lead to are alike: they differ in the order of paths and of rules only.

The simulation needs that null is not allowed before a type is named, which is true of whatever
schema files declare, and is what `Tidy` says.
-/

namespace DocumentSchema

/-! ## The digest of a definition -/

namespace FieldDefinition

variable {field : FieldDefinition} {rule : Rule} {type : BaseType}

/-- The checks of a type in the order of evaluation. -/
def checksOf (field : FieldDefinition) (type : BaseType) : List Check :=
  (field.rules.filter (·.type = type)).map (·.check)

def nullable? (field : FieldDefinition) : Option Bool :=
  if field.hasExplicitRule then some field.nullable else none

/-- The definition up to the order of its rules. -/
def digest (field : FieldDefinition) : Digest where
  presence := some field.strictness.presence?
  nullable := some field.nullable?
  checks type := if type = .any then 0 else field.checksOf type

/-- Null is not allowed before a type is named. -/
def Tidy (field : FieldDefinition) : Prop :=
  field.hasExplicitRule = false → field.nullable = false

theorem consistent_digest (field : FieldDefinition) : field.digest.Consistent := ⟨rfl, rfl⟩

@[simp] theorem strictness_addRule : (field.addRule rule).strictness = field.strictness := by
  rw [addRule, addImplicit, addExplicit]
  split
  · split <;> rfl
  · rfl

@[simp] theorem nullable_addRule : (field.addRule rule).nullable = field.nullable := by
  rw [addRule, addImplicit, addExplicit]
  split
  · split <;> rfl
  · rfl

theorem hasExplicitRule_addRule :
    (field.addRule rule).hasExplicitRule = (field.hasExplicitRule || !rule.implicit) := by
  rw [addRule]
  cases himplicit : rule.implicit with
  | true =>
    rw [if_pos rfl, addImplicit]
    split
    · simp
    · simp [hasExplicitRule, himplicit]
  | false =>
    rw [if_neg (by decide), addExplicit]
    simp [hasExplicitRule, himplicit]

theorem checksOf_eq_nil_iff : field.checksOf type = [] ↔ field.hasRuleFor type = false := by
  simp [checksOf, hasRuleFor]

theorem checksOf_addRule_of_ne (htype : rule.type ≠ type) :
    (field.addRule rule).checksOf type = field.checksOf type := by
  have hkept : ∀ other : Rule, (decide (other.type = type) && decide (other.type ≠ rule.type))
      = decide (other.type = type) := by
    intro other
    by_cases h : other.type = type
    · simp [h, Ne.symm htype]
    · simp [h]
  rw [addRule]
  split
  · rw [addImplicit]
    split
    · rfl
    · simp [checksOf, htype]
  · rw [addExplicit]
    split
    · simp only [checksOf, List.filter_append, List.filter_filter, hkept]
      simp [htype]
    · simp [checksOf, htype]

theorem checksOf_addRule :
    ((field.addRule rule).checksOf type : Multiset Check)
      = rule.placeAt type (field.checksOf type) := by
  by_cases htype : rule.type = type
  · subst htype
    rw [addRule]
    cases himplicit : rule.implicit with
    -- A rule that nobody named is placed only where its type has no rule yet.
    | true =>
      rw [if_pos rfl, Rule.placeAt_implicit himplicit, addImplicit]
      cases hrule : field.hasRuleFor rule.type with
      | true =>
        have hsome : field.checksOf rule.type ≠ [] := by
          rw [ne_eq, checksOf_eq_nil_iff, hrule]
          decide
        rw [if_pos rfl, if_neg (by simpa using hsome)]
      | false =>
        have hnone := checksOf_eq_nil_iff.mpr hrule
        rw [if_neg (by decide), if_pos (by simpa using hnone)]
        rw [checksOf] at hnone
        rw [checksOf, List.filter_append, List.map_append, hnone]
        simp
    | false =>
      rw [if_neg (by decide), addExplicit, checksOf]
      by_cases hstructural : rule.type.isStructural = true
      · rw [Rule.placeAt_structural himplicit hstructural]
        simp [hstructural, List.filter_filter]
      · rw [Rule.placeAt_scalar himplicit (by simpa using hstructural)]
        simp [hstructural, checksOf]
  · rw [Rule.placeAt_of_ne htype, checksOf_addRule_of_ne htype]

end FieldDefinition

/-! ## Demands on definitions and on digests -/

namespace Demand

variable {demand : Demand} {field : FieldDefinition}

theorem update_eq (demand : Demand) (field : FieldDefinition) :
    demand.update field = FieldDefinition.settle { demand.place field with
      nullable := field.nullable || demand.rule?.any (·.nullable) } demand.strictness := by
  rw [update, place, rule?]
  cases demand.part with
  | element => simp
  | declared type => simp
  | container kind =>
    have hrule : field.addImplicit ⟨kind.type, false, true, kind.check⟩
        = field.addRule ⟨kind.type, false, true, kind.check⟩ := rfl
    have hnullable := @FieldDefinition.nullable_addRule field ⟨kind.type, false, true, kind.check⟩
    simp only [hrule, Option.any_some, Bool.or_false]
    rw [← hnullable]

theorem strictness_update : (demand.update field).strictness
    = if field.strictness = .unknown then demand.strictness else field.strictness := by
  have hplace : (demand.place field).strictness = field.strictness := by
    rw [place]
    split <;> simp
  rw [update_eq, FieldDefinition.settle, ← hplace]
  split <;> rfl

theorem nullable_update :
    (demand.update field).nullable = (field.nullable || demand.rule?.any (·.nullable)) := by
  rw [update_eq, FieldDefinition.settle]
  split <;> rfl

theorem hasExplicitRule_update : (demand.update field).hasExplicitRule
    = (field.hasExplicitRule || demand.rule?.any (!·.implicit)) := by
  have hplace : (demand.update field).hasExplicitRule = (demand.place field).hasExplicitRule := by
    rw [FieldDefinition.hasExplicitRule, rules_update, FieldDefinition.hasExplicitRule]
  rw [hplace, place]
  cases demand.rule? with
  | none => simp
  | some rule => exact FieldDefinition.hasExplicitRule_addRule

theorem checksOf_update (type : BaseType) : ((demand.update field).checksOf type : Multiset Check)
    = demand.placeAt type (field.checksOf type) := by
  have hplace : (demand.update field).checksOf type = (demand.place field).checksOf type := by
    rw [FieldDefinition.checksOf, rules_update, FieldDefinition.checksOf]
  rw [hplace, place, placeAt]
  cases demand.rule? with
  | none => rfl
  | some rule => exact FieldDefinition.checksOf_addRule

theorem tidy_update (hplain : demand.Plain) (h : field.Tidy) : (demand.update field).Tidy := by
  intro hexplicit
  rw [hasExplicitRule_update, Bool.or_eq_false_iff] at hexplicit
  obtain ⟨hfield, hdemand⟩ := hexplicit
  rw [nullable_update, h hfield, Bool.false_or]
  cases hrule : demand.rule? with
  | none => rfl
  | some rule =>
    rw [hrule, Option.any_some] at hdemand
    exact ((hplain rule hrule).2 (by simpa using hdemand)).1

/-! ### What a demand is checked for -/

theorem checkStrictness_eq_ok_iff (path : String) (strictness : Strictness) :
    field.checkStrictness path strictness = .ok () ↔
      (agree? field.strictness.presence? strictness.presence?).isSome = true := by
  rw [FieldDefinition.checkStrictness.eq_def]
  cases field.strictness <;> cases strictness <;> simp [Strictness.presence?, agree?]

theorem checkNullability_eq_ok_iff (path : String) (nullable : Bool) :
    field.checkNullability path nullable = .ok () ↔
      (agree? field.nullable? (some nullable)).isSome = true := by
  rw [FieldDefinition.checkNullability, FieldDefinition.nullable?]
  cases field.hasExplicitRule with
  | false => simp [agree?]
  | true => cases field.nullable <;> cases nullable <;> simp [agree?]

theorem check_eq_ok_iff : demand.check field = .ok () ↔
    (agree? field.strictness.presence? demand.strictness.presence?).isSome = true ∧
      (agree? field.nullable? demand.nullable?).isSome = true := by
  rw [check, bind_eq_ok_iff, nullable?, rule?, ← checkStrictness_eq_ok_iff demand.path]
  cases demand.part with
  | element | container _ => simp [pure_eq_ok_iff, Unique.exists_iff]
  | declared type =>
    cases himplicit : type.implicit with
    | true => simp [himplicit, pure_eq_ok_iff, Unique.exists_iff]
    | false => simp [himplicit, checkNullability_eq_ok_iff, Unique.exists_iff]

/-! ### The simulation -/

theorem presence?_update (h : demand.check field = .ok ()) :
    agree? field.strictness.presence? demand.strictness.presence?
      = some (demand.update field).strictness.presence? := by
  have hagree := (check_eq_ok_iff.mp h).1
  rw [strictness_update]
  revert hagree
  cases field.strictness <;> cases demand.strictness <;> decide

theorem nullable?_update (hplain : demand.Plain) (htidy : field.Tidy)
    (h : demand.check field = .ok ()) :
    agree? field.nullable? demand.nullable? = some (demand.update field).nullable? := by
  have hagree := (check_eq_ok_iff.mp h).2
  rw [FieldDefinition.nullable?, nullable?] at hagree ⊢
  rw [FieldDefinition.nullable?, hasExplicitRule_update, nullable_update]
  cases hrule : demand.rule? with
  | none => simp
  | some rule =>
    cases himplicit : rule.implicit with
    | true =>
      have hnullable := ((hplain rule hrule).2 himplicit).1
      simp [himplicit, hnullable]
    | false =>
      simp only [hrule, himplicit] at hagree
      cases hexplicit : field.hasExplicitRule with
      -- The first type to be named decides, and nothing is known of null before it.
      | false => simp [himplicit, htidy hexplicit, agree?]
      | true =>
        by_cases hsame : field.nullable = rule.nullable
        · simp [himplicit, agree?, hsame]
        · simp [hexplicit, agree?, hsame] at hagree

/-- A demand that can be met does to the digest what it does to the definition. -/
theorem digest_update (hplain : demand.Plain) (htidy : field.Tidy)
    (h : demand.check field = .ok ()) :
    field.digest.meet demand = (demand.update field).digest := by
  ext1
  · exact presence?_update h
  · exact nullable?_update hplain htidy h
  · funext type
    rw [Digest.meet, FieldDefinition.digest, FieldDefinition.digest]
    by_cases htype : type = .any
    · simp [htype]
    · simp [htype, checksOf_update]

/-- A demand can be met if it does not contradict the digest. -/
theorem check_eq_ok_iff_consistent :
    demand.check field = .ok () ↔ (field.digest.meet demand).Consistent := check_eq_ok_iff

end Demand

/-! ## Schemas -/

namespace Schema

variable {schema result : Schema} {demand : Demand} {demands : List Demand}

/-- Null is allowed at no path before a type is named for it. -/
def Tidy (schema : Schema) : Prop := ∀ path, (schema.entry path).Tidy

theorem Tidy.set (h : schema.Tidy) (hplain : demand.Plain) :
    (schema.set demand.path (demand.update (schema.entry demand.path))).Tidy := by
  intro path
  rw [entry_set]
  split
  · exact Demand.tidy_update hplain (h _)
  · exact h path

theorem Tidy.meetAll (h : schema.Tidy) (hplain : ∀ demand ∈ demands, demand.Plain) :
    (schema.meetAll demands).1.Tidy :=
  meetAll_preserves h fun hdemand htidy ↦ htidy.set (hplain _ hdemand)

/-- The digest of a path after demands. -/
def digestAfter (schema : Schema) (demands : List Demand) (path : String) : Digest :=
  (demands.filter (·.path = path)).foldl Digest.meet (schema.entry path).digest

/-- A demand that is met is met in the digest of its path, and in no other. -/
theorem digestAfter_cons (htidy : schema.Tidy) (hplain : demand.Plain)
    (hmeet : schema.meet demand = .ok result) (rest : List Demand) (path : String) :
    schema.digestAfter (demand :: rest) path = result.digestAfter rest path := by
  have hcheck := check_of_meet_eq_ok hmeet
  rw [eq_set_of_meet_eq_ok hmeet, digestAfter, digestAfter, entry_set]
  by_cases hpath : demand.path = path
  · subst hpath
    rw [List.filter_cons_of_pos (by simp), List.foldl_cons,
      Demand.digest_update hplain (htidy _) hcheck, if_pos rfl]
  · rw [List.filter_cons_of_neg (by simpa using hpath), if_neg (Ne.symm hpath)]

/-- **Demands can be met in order exactly if no digest ends in a contradiction.** -/
theorem meetAll_eq_ok_iff (htidy : schema.Tidy) (hplain : ∀ demand ∈ demands, demand.Plain) :
    (schema.meetAll demands).2 = .ok () ↔ ∀ path, (schema.digestAfter demands path).Consistent := by
  induction demands generalizing schema with
  | nil => simp [meetAll, digestAfter, FieldDefinition.consistent_digest]
  | cons demand rest ih =>
    have hdemand := hplain demand List.mem_cons_self
    cases hmeet : schema.meet demand with
    | error error =>
      rw [meetAll_cons_error hmeet]
      constructor
      · intro h
        cases h
      · intro h
        -- A contradiction at this demand would stay in the digest to the end.
        have hpath := h demand.path
        rw [digestAfter, List.filter_cons_of_pos (by simp), List.foldl_cons] at hpath
        rw [meet_eq, Demand.check_eq_ok_iff_consistent.mpr hpath.of_foldl] at hmeet
        cases hmeet
    | ok next =>
      have hnext := eq_set_of_meet_eq_ok hmeet
      rw [meetAll_cons_ok hmeet, ih (hnext ▸ htidy.set hdemand)
        fun other hother ↦ hplain other (List.mem_cons_of_mem _ hother)]
      simp only [digestAfter_cons htidy hdemand hmeet]

/-- **Demands that can be met do to every digest what they do to the schema.** -/
theorem digest_entry_meetAll (htidy : schema.Tidy) (hplain : ∀ demand ∈ demands, demand.Plain)
    (hok : (schema.meetAll demands).2 = .ok ()) (path : String) :
    ((schema.meetAll demands).1.entry path).digest = schema.digestAfter demands path := by
  induction demands generalizing schema with
  | nil => rfl
  | cons demand rest ih =>
    have hdemand := hplain demand List.mem_cons_self
    cases hmeet : schema.meet demand with
    | error error => rw [meetAll_cons_error hmeet] at hok; cases hok
    | ok next =>
      have hnext := eq_set_of_meet_eq_ok hmeet
      rw [meetAll_cons_ok hmeet] at hok ⊢
      rw [digestAfter_cons htidy hdemand hmeet, ih (hnext ▸ htidy.set hdemand)
        (fun other hother ↦ hplain other (List.mem_cons_of_mem _ hother)) hok]

theorem mem_paths_meetAll (hok : (schema.meetAll demands).2 = .ok ()) {path : String} :
    path ∈ (schema.meetAll demands).1.paths ↔
      path ∈ schema.paths ∨ ∃ demand ∈ demands, demand.path = path := by
  induction demands generalizing schema with
  | nil => simp [meetAll]
  | cons demand rest ih =>
    cases hmeet : schema.meet demand with
    | error error => rw [meetAll_cons_error hmeet] at hok; cases hok
    | ok next =>
      rw [meetAll_cons_ok hmeet] at hok ⊢
      rw [ih hok, eq_set_of_meet_eq_ok hmeet, mem_paths_set, eq_comm]
      simp only [List.mem_cons, exists_eq_or_imp]
      tauto

theorem nodup_paths_meetAll (h : schema.paths.Nodup) : (schema.meetAll demands).1.paths.Nodup :=
  meetAll_preserves h fun _ hnodup ↦ Entries.nodup_keys_insert hnodup _ _

theorem ignoreExtraFields_meetAll (schema : Schema) (demands : List Demand) :
    (schema.meetAll demands).1.ignoreExtraFields = schema.ignoreExtraFields := by
  have hpreserved := @meetAll_preserves schema demands
    (fun result ↦ result.ignoreExtraFields = schema.ignoreExtraFields) rfl
  exact hpreserved fun _ h ↦ h

/-! ## Schemas up to order -/

/-- Two schemas know the same, up to the order of paths and rules. -/
structure Alike (schema other : Schema) : Prop where
  ignoreExtraFields : schema.ignoreExtraFields = other.ignoreExtraFields
  paths : schema.paths.Perm other.paths
  digest : ∀ path, (schema.entry path).digest = (other.entry path).digest

/-- **The order of demands does not matter.** Demands that can be met can be met in any order, and
lead to the same schema up to order, if the list types that are named for a path are alike. -/
theorem meetAll_perm {other : List Demand} (hperm : demands.Perm other) (htidy : schema.Tidy)
    (hnodup : schema.paths.Nodup) (hplain : ∀ demand ∈ demands, demand.Plain)
    (hcompatible : ∀ first ∈ demands, ∀ second ∈ demands, first.path = second.path →
      first.Compatible second)
    (hok : (schema.meetAll demands).2 = .ok ()) :
    (schema.meetAll other).2 = .ok () ∧
      (schema.meetAll demands).1.Alike (schema.meetAll other).1 := by
  have hotherplain : ∀ demand ∈ other, demand.Plain := fun demand hdemand ↦
    hplain demand (hperm.mem_iff.mpr hdemand)
  have hafter : ∀ path, schema.digestAfter demands path = schema.digestAfter other path := by
    intro path
    refine Digest.foldl_meet_perm (hperm.filter _)
      (fun demand hdemand ↦ hplain demand (List.mem_of_mem_filter hdemand)) ?_ _
    intro first hfirst second hsecond
    obtain ⟨hfirst, hfirstpath⟩ := List.mem_filter.mp hfirst
    obtain ⟨hsecond, hsecondpath⟩ := List.mem_filter.mp hsecond
    rw [decide_eq_true_eq] at hfirstpath hsecondpath
    exact hcompatible first hfirst second hsecond (hfirstpath.trans hsecondpath.symm)
  -- Whether the demands can be met, and what they lead to, can be read off the digests.
  have hotherok : (schema.meetAll other).2 = .ok () := by
    rw [meetAll_eq_ok_iff htidy hotherplain]
    intro path
    rw [← hafter path]
    exact (meetAll_eq_ok_iff htidy hplain).mp hok path
  refine ⟨hotherok, ⟨?_, ?_, ?_⟩⟩
  · rw [ignoreExtraFields_meetAll, ignoreExtraFields_meetAll]
  · rw [List.perm_ext_iff_of_nodup (nodup_paths_meetAll hnodup) (nodup_paths_meetAll hnodup)]
    intro path
    rw [mem_paths_meetAll hok, mem_paths_meetAll hotherok]
    simp only [hperm.mem_iff]
  · intro path
    rw [digest_entry_meetAll htidy hplain hok, digest_entry_meetAll htidy hotherplain hotherok,
      hafter]

end Schema

end DocumentSchema
