import DocumentSchema.Proofs.Schema.Growth
import Mathlib.Data.List.Pairwise

/-!
# Demands agree in pairs

What a schema knows after demands was said by some of them, or was known before: every demand adds
what it says to its path, and nothing else is added. So the order of demands that are met has no
part in it, and what is left to the order is only how rules are ordered and which of several rules
that replace each other is left.

The same is so of whether demands can be met. A demand contradicts what earlier ones said, all
together, exactly if it contradicts one of them, so it is a matter of every two of them. Here the
demands have to be plain, since null that is allowed before a type is named would count against the
name.
-/

namespace DocumentSchema

/-! ## What demands add -/

namespace Demand

variable {demand : Demand} {field : FieldDefinition}

theorem strictness_update_eq_iff (h : demand.check field = .ok ()) {strictness : Strictness}
    (hne : strictness ≠ .unknown) : (demand.update field).strictness = strictness ↔
      field.strictness = strictness ∨ demand.strictness = strictness := by
  have hagree := (check_eq_ok_iff.mp h).1
  rw [strictness_update]
  revert hagree hne
  cases field.strictness <;> cases demand.strictness <;> cases strictness <;> decide

theorem nullable_update_iff : (demand.update field).nullable = true ↔
    field.nullable = true ∨ ∃ rule, demand.rule? = some rule ∧ rule.nullable = true := by
  rw [nullable_update, Bool.or_eq_true, Option.any_eq_true]

theorem hasRuleFor_update_iff {type : BaseType} : (demand.update field).hasRuleFor type = true ↔
    field.hasRuleFor type = true ∨ ∃ rule, demand.rule? = some rule ∧ rule.type = type := by
  rw [FieldDefinition.hasRuleFor, rules_update, ← FieldDefinition.hasRuleFor, place]
  cases demand.rule? with
  | none => simp
  | some rule => simp [FieldDefinition.hasRuleFor_addRule]

end Demand

namespace Schema

variable {schema : Schema} {demands : List Demand}

/-- **What is known after demands was known before or was added by one of them**, if each adds
something to its path. -/
theorem entry_meetAll_iff (holds : FieldDefinition → Prop) {adds : Demand → Prop}
    (step : ∀ {demand : Demand} {field : FieldDefinition}, demand.check field = .ok () →
      (holds (demand.update field) ↔ holds field ∨ adds demand))
    (hok : (schema.meetAll demands).2 = .ok ()) (path : String) :
    holds ((schema.meetAll demands).1.entry path) ↔
      holds (schema.entry path) ∨ ∃ demand ∈ demands, demand.path = path ∧ adds demand := by
  induction demands generalizing schema with
  | nil => simp [meetAll]
  | cons demand rest ih =>
    cases hmeet : schema.meet demand with
    | error error => rw [meetAll_cons_error hmeet] at hok; cases hok
    | ok next =>
      rw [meetAll_cons_ok hmeet] at hok ⊢
      have hstep := step (check_of_meet_eq_ok hmeet)
      rw [ih hok, eq_set_of_meet_eq_ok hmeet, entry_set]
      by_cases hpath : path = demand.path
      · subst hpath
        simp [hstep, or_assoc]
      · simp [hpath, Ne.symm hpath]

variable (hok : (schema.meetAll demands).2 = .ok ()) (path : String)

include hok

theorem strictness_meetAll_eq_iff {strictness : Strictness} (hne : strictness ≠ .unknown) :
    ((schema.meetAll demands).1.entry path).strictness = strictness ↔
      (schema.entry path).strictness = strictness ∨
        ∃ demand ∈ demands, demand.path = path ∧ demand.strictness = strictness :=
  entry_meetAll_iff (·.strictness = strictness)
    (fun hcheck ↦ Demand.strictness_update_eq_iff hcheck hne) hok path

theorem nullable_meetAll_iff : ((schema.meetAll demands).1.entry path).nullable = true ↔
    (schema.entry path).nullable = true ∨ ∃ demand ∈ demands, demand.path = path ∧
      ∃ rule, demand.rule? = some rule ∧ rule.nullable = true :=
  entry_meetAll_iff (·.nullable = true) (fun _ ↦ Demand.nullable_update_iff) hok path

theorem hasRuleFor_meetAll_iff (type : BaseType) :
    ((schema.meetAll demands).1.entry path).hasRuleFor type = true ↔
      (schema.entry path).hasRuleFor type = true ∨ ∃ demand ∈ demands, demand.path = path ∧
        ∃ rule, demand.rule? = some rule ∧ rule.type = type :=
  entry_meetAll_iff (·.hasRuleFor type = true) (fun _ ↦ Demand.hasRuleFor_update_iff)
    hok path

theorem hasNamedRuleFor_meetAll_iff (type : BaseType) :
    ((schema.meetAll demands).1.entry path).hasNamedRuleFor type = true ↔
      (schema.entry path).hasNamedRuleFor type = true ∨ ∃ demand ∈ demands, demand.path = path ∧
        ∃ rule, demand.rule? = some rule ∧ rule.type = type ∧ rule.implicit = false :=
  entry_meetAll_iff (·.hasNamedRuleFor type = true)
    (fun _ ↦ Demand.hasNamedRuleFor_update _ _ _) hok path

end Schema

/-! ## Which demands can be met -/

section Agreement

variable {α β : Type} [DecidableEq α]

theorem isSome_foldl_agree?_iff (said : β → Option α) (sources : List β) (known : Option α) :
    (sources.foldl (fun known source ↦ known.bind (agree? · (said source))) (some known)).isSome
        = true ↔
      (∀ source ∈ sources, (agree? known (said source)).isSome = true) ∧
        sources.Pairwise fun first second ↦ (agree? (said first) (said second)).isSome = true := by
  induction sources generalizing known with
  | nil => simp
  | cons first rest ih =>
    rw [List.foldl_cons, Option.bind_some, List.forall_mem_cons, List.pairwise_cons]
    cases hsaid : said first with
    | none =>
      -- A source that says nothing agrees with everything.
      have hnothing : ∀ other : Option α, (agree? none other).isSome = true := fun _ ↦ rfl
      rw [agree?_none, ih]
      simp [hnothing]
    | some a =>
      cases known with
      | none =>
        rw [agree?, ih]
        simp [agree?]
      | some b =>
        by_cases hsame : b = a
        · subst hsame
          rw [agree?, if_pos rfl, ih]
          tauto
        · have hnone : agree? (some b) (some a) = none := if_neg hsame
          have hlost : ∀ list : List β, list.foldl
              (fun known source ↦ known.bind (agree? · (said source))) none = none := by
            intro list
            induction list with
            | nil => rfl
            | cons _ _ ih => exact ih
          simp [hnone, hlost]

end Agreement

/-- Two demands do not contradict each other, on presence or on null. -/
def Demand.Agrees (first second : Demand) : Prop :=
  (agree? first.strictness.presence? second.strictness.presence?).isSome = true ∧
    (agree? first.nullable? second.nullable?).isSome = true

theorem Demand.Agrees.symm {first second : Demand} (h : first.Agrees second) :
    second.Agrees first := by
  rwa [Agrees, agree?_comm, agree?_comm second.nullable?]

def Demand.Meets (first second : Demand) : Prop := first.path = second.path → first.Agrees second

theorem Demand.Meets.symm {first second : Demand} (h : first.Meets second) : second.Meets first :=
  fun hpath ↦ (h hpath.symm).symm

namespace Digest

theorem presence_foldl_meet (digest : Digest) (demands : List Demand) :
    (demands.foldl meet digest).presence = demands.foldl
      (fun known demand ↦ known.bind (agree? · demand.strictness.presence?)) digest.presence :=
  (List.foldl_hom presence fun _ _ ↦ rfl).symm

theorem nullable_foldl_meet (digest : Digest) (demands : List Demand) :
    (demands.foldl meet digest).nullable = demands.foldl
      (fun known demand ↦ known.bind (agree? · demand.nullable?)) digest.nullable :=
  (List.foldl_hom nullable fun _ _ ↦ rfl).symm

/-- Where nothing is known, demands contradict each other in pairs. -/
theorem consistent_foldl_meet_iff {demands : List Demand} :
    (demands.foldl meet (FieldDefinition.digest {})).Consistent ↔
      demands.Pairwise Demand.Agrees := by
  have hnothing : ∀ {α : Type} [DecidableEq α] (said : Option α),
      (agree? none said).isSome = true := fun _ ↦ rfl
  rw [Consistent, presence_foldl_meet, nullable_foldl_meet]
  refine (and_congr (isSome_foldl_agree?_iff (fun demand : Demand ↦ demand.strictness.presence?)
    demands none) (isSome_foldl_agree?_iff Demand.nullable? demands none)).trans ?_
  simp only [hnothing, implies_true, true_and]
  exact List.pairwise_and_iff.symm

end Digest

namespace Schema

variable {schema : Schema} {demands : List Demand}

/-- **Whether demands can be met is a matter of every two of them**, where nothing is known
before. -/
theorem meetAll_eq_ok_iff_pairwise (hschema : ∀ path, schema.entry path = {})
    (hplain : ∀ demand ∈ demands, demand.Plain) :
    (schema.meetAll demands).2 = .ok () ↔ demands.Pairwise Demand.Meets := by
  have htidy : schema.Tidy := by
    intro path
    rw [hschema path]
    exact fun _ ↦ rfl
  simp only [meetAll_eq_ok_iff htidy hplain, digestAfter, hschema,
    Digest.consistent_foldl_meet_iff, List.pairwise_filter, decide_eq_true_eq]
  simp only [List.pairwise_iff_forall_sublist]
  constructor
  · intro h first second hsublist hpath
    exact h second.path hsublist hpath rfl
  · intro h path first second hsublist hfirst hsecond
    exact h hsublist (hfirst.trans hsecond.symm)

/-! ## Demands in any order -/

/-- Two schemas know the same paths, and of each path the same but for the order of its rules and
their limits. -/
structure SameFields (schema other : Schema) : Prop where
  paths : ∀ path, path ∈ schema.paths ↔ path ∈ other.paths
  strictness : ∀ path, (schema.entry path).strictness = (other.entry path).strictness
  nullable : ∀ path, (schema.entry path).nullable = (other.entry path).nullable
  types : ∀ path type, type ∈ (schema.entry path).types ↔ type ∈ (other.entry path).types
  /-- The rule for a kind of container is implicit in both or in neither. -/
  implicit : ∀ path (kind : ContainerKind), ∀ rule ∈ (schema.entry path).rules,
    ∀ another ∈ (other.entry path).rules, rule.type = kind.type → another.type = kind.type →
      rule.implicit = another.implicit

theorem eq_of_forall_strictness {first second : Strictness}
    (h : ∀ strictness ≠ .unknown, first = strictness ↔ second = strictness) : first = second := by
  cases first with
  | unknown =>
    by_contra hne
    exact hne ((h second (Ne.symm hne)).mpr rfl)
  | required => exact ((h .required (by decide)).mp rfl).symm
  | optional => exact ((h .optional (by decide)).mp rfl).symm

theorem mem_types_iff {field : FieldDefinition} {type : BaseType} :
    type ∈ field.types ↔ field.hasRuleFor type = true := by
  rw [FieldDefinition.types, List.mem_map, FieldDefinition.hasRuleFor_iff]

/-- **The order of demands matters for nothing but the order and the limits of rules.** -/
theorem sameFields_meetAll {other : List Demand} (hperm : demands.Perm other)
    (hsingle : schema.SingleContainers) (hok : (schema.meetAll demands).2 = .ok ())
    (hother : (schema.meetAll other).2 = .ok ()) :
    (schema.meetAll demands).1.SameFields (schema.meetAll other).1 where
  paths path := by
    rw [mem_paths_meetAll hok, mem_paths_meetAll hother]
    simp only [hperm.mem_iff]
  strictness path := by
    refine eq_of_forall_strictness fun strictness hne ↦ ?_
    rw [strictness_meetAll_eq_iff hok path hne, strictness_meetAll_eq_iff hother path hne]
    simp only [hperm.mem_iff]
  nullable path := by
    rw [Bool.eq_iff_iff, nullable_meetAll_iff hok path, nullable_meetAll_iff hother path]
    simp only [hperm.mem_iff]
  types path type := by
    rw [mem_types_iff, mem_types_iff, hasRuleFor_meetAll_iff hok path,
      hasRuleFor_meetAll_iff hother path]
    simp only [hperm.mem_iff]
  implicit path kind rule hrule another hanother htype hanothertype := by
    have hnamed : ((schema.meetAll demands).1.entry path).hasNamedRuleFor kind.type
        = ((schema.meetAll other).1.entry path).hasNamedRuleFor kind.type := by
      rw [Bool.eq_iff_iff, hasNamedRuleFor_meetAll_iff hok path,
        hasNamedRuleFor_meetAll_iff hother path]
      simp only [hperm.mem_iff]
    rw [Bool.eq_iff_iff,
      FieldDefinition.implicit_iff (hsingle.meetAll demands path kind) hrule htype,
      FieldDefinition.implicit_iff (hsingle.meetAll other path kind) hanother hanothertype, hnamed]

end Schema

end DocumentSchema
