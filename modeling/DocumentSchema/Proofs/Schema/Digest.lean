import DocumentSchema.Proofs.Schema.Rules
import Mathlib.Data.Multiset.AddSub

/-!
# What does not depend on the order of demands

The definition of a path depends on the order of the demands that made it: in the order of its
rules, and in whether a rule that nobody named came before one of its type that was named. A
`Digest` leaves out what differs: the rules that accept everything, which rules are implicit, and
the order of the others. What it keeps has two parts that sources must agree on, the presence and
whether null is allowed, and for each type the checks that are made.

A digest is made by folding demands, and here the order does not matter, as long as the list types
that are named for a path are alike. A contradiction is part of a digest and is never lost again, so
whether demands contradict each other does not depend on their order either.
-/

namespace DocumentSchema

/-! ## Agreement -/

section Agreement

variable {α : Type} [DecidableEq α]

/-- What two sources agree on, each of which may say nothing. -/
def agree? : Option α → Option α → Option (Option α)
  | none, second => some second
  | some first, none => some (some first)
  | some first, some second => if first = second then some (some first) else none

@[simp] theorem agree?_none (first : Option α) : agree? first none = some first := by
  cases first <;> rfl

theorem agree?_comm (first second : Option α) : agree? first second = agree? second first := by
  cases first with
  | none => rw [agree?_none, agree?]
  | some a =>
    cases second with
    | none => rw [agree?_none, agree?]
    | some b =>
      rw [agree?, agree?]
      by_cases h : a = b
      · rw [if_pos h, if_pos h.symm, h]
      · rw [if_neg h, if_neg (Ne.symm h)]

theorem agree?_right_comm (first second third : Option α) :
    (agree? first second).bind (agree? · third) = (agree? first third).bind (agree? · second) := by
  cases first with
  | none =>
    rw [agree?, agree?, Option.bind_some, Option.bind_some]
    exact agree?_comm second third
  | some a =>
    cases second with
    | none => rw [agree?_none, Option.bind_some]; cases agree? (some a) third <;> simp
    | some b =>
      cases third with
      | none => rw [agree?_none, Option.bind_some]; cases agree? (some a) (some b) <;> simp
      | some c =>
        rw [agree?, agree?]
        by_cases hb : a = b
        · subst hb
          by_cases hc : a = c
          · subst hc
            rfl
          · rw [if_pos rfl, if_neg hc, Option.bind_some, Option.bind_none, agree?, if_neg hc]
        · rw [if_neg hb, Option.bind_none]
          by_cases hc : a = c
          · rw [if_pos hc, Option.bind_some, agree?, if_neg hb]
          · rw [if_neg hc, Option.bind_none]

end Agreement

def Strictness.presence? : Strictness → Option Presence
  | unknown => none
  | required => some .required
  | optional => some .optional

theorem Strictness.presence?_inj {first second : Strictness} :
    first.presence? = second.presence? ↔ first = second := by
  cases first <;> cases second <;> decide

/-! ## Summaries -/

/-- What is known about a path, up to the order of the demands that led to it. What the sources
contradict each other in is missing. -/
@[ext]
structure Digest where
  presence : Option (Option Presence)
  nullable : Option (Option Bool)
  /-- The checks of each type. Those that accept everything are left out. -/
  checks : BaseType → Multiset Check

namespace Rule

/-- The rule checks its type; if nobody named it, it is one for a container or accepts everything,
and says nothing of null. -/
def Plain (rule : Rule) : Prop :=
  rule.check.type = rule.type ∧ (rule.implicit = true →
    rule.nullable = false ∧ (rule.type = .any ∨ rule.type.isStructural = true))

/-- The rules do not replace each other, or are alike where they do. -/
def Compatible (rule other : Rule) : Prop :=
  rule.type = other.type → rule.type.isStructural = true → rule.implicit = other.implicit →
    rule.check = other.check

/-- The checks of a type after a rule is added. -/
def placeAt (rule : Rule) (type : BaseType) (checks : Multiset Check) : Multiset Check :=
  if rule.type ≠ type then checks
  else if rule.implicit then (if checks.card = 0 then {rule.check} else checks)
  else if rule.type.isStructural then {rule.check}
  else rule.check ::ₘ checks

variable {rule other : Rule} {type : BaseType} {checks : Multiset Check}

theorem placeAt_of_ne (h : rule.type ≠ type) : rule.placeAt type checks = checks := if_pos h

theorem placeAt_implicit (himplicit : rule.implicit = true) :
    rule.placeAt rule.type checks = if checks.card = 0 then {rule.check} else checks := by
  rw [placeAt, if_neg (not_not.mpr rfl), if_pos himplicit]

theorem placeAt_structural (himplicit : rule.implicit = false)
    (hstructural : rule.type.isStructural = true) :
    rule.placeAt rule.type checks = {rule.check} := by
  rw [placeAt, if_neg (not_not.mpr rfl), if_neg (by simp [himplicit]), if_pos hstructural]

theorem placeAt_scalar (himplicit : rule.implicit = false)
    (hstructural : rule.type.isStructural = false) :
    rule.placeAt rule.type checks = rule.check ::ₘ checks := by
  rw [placeAt, if_neg (not_not.mpr rfl), if_neg (by simp [himplicit]),
    if_neg (by simp [hstructural])]

/-- An implicit rule beside one that is named leaves no trace, whichever comes first. -/
theorem placeAt_named_implicit (htype : rule.type = other.type)
    (hnamed : rule.implicit = false) (himplicit : other.implicit = true)
    (hstructural : rule.type.isStructural = true) (checks : Multiset Check) :
    other.placeAt rule.type (rule.placeAt rule.type checks) = {rule.check} ∧
      rule.placeAt rule.type (other.placeAt rule.type checks) = {rule.check} := by
  refine ⟨?_, placeAt_structural hnamed hstructural⟩
  rw [placeAt_structural hnamed hstructural, htype, placeAt_implicit himplicit,
    if_neg (by simp)]

theorem placeAt_right_comm (htype : rule.type ≠ .any) (hrule : rule.Plain) (hother : other.Plain)
    (hsame : rule.type = other.type) (hcompatible : rule.Compatible other)
    (checks : Multiset Check) :
    other.placeAt rule.type (rule.placeAt rule.type checks)
      = rule.placeAt rule.type (other.placeAt rule.type checks) := by
  by_cases hstructural : rule.type.isStructural = true
  · cases hruleimplicit : rule.implicit with
    | true =>
      cases hotherimplicit : other.implicit with
      | true =>
        have hcheck := hcompatible hsame hstructural (by rw [hruleimplicit, hotherimplicit])
        rw [placeAt_implicit hruleimplicit, placeAt_implicit hruleimplicit, hsame,
          placeAt_implicit hotherimplicit, placeAt_implicit hotherimplicit, hcheck]
      | false =>
        have hboth := placeAt_named_implicit hsame.symm hotherimplicit hruleimplicit
          (hsame ▸ hstructural) checks
        rw [hsame, hboth.1, hboth.2]
    | false =>
      cases hotherimplicit : other.implicit with
      | true =>
        have hboth := placeAt_named_implicit hsame hruleimplicit hotherimplicit hstructural checks
        rw [hboth.1, hboth.2]
      | false =>
        have hcheck := hcompatible hsame hstructural (by rw [hruleimplicit, hotherimplicit])
        calc other.placeAt rule.type (rule.placeAt rule.type checks)
            = {other.check} := by
              rw [hsame, placeAt_structural hotherimplicit (hsame ▸ hstructural)]
          _ = {rule.check} := by rw [hcheck]
          _ = rule.placeAt rule.type (other.placeAt rule.type checks) :=
            (placeAt_structural hruleimplicit hstructural).symm
  · rw [Bool.not_eq_true] at hstructural
    -- Rules of the other types are always named, and each is one more check.
    have hnamed : ∀ {rule : Rule}, rule.Plain → rule.type ≠ .any →
        rule.type.isStructural = false → rule.implicit = false := by
      intro rule hplain hany hscalar
      by_contra himplicit
      rcases (hplain.2 (by simpa using himplicit)).2 with h | h
      · exact hany h
      · rw [hscalar] at h
        cases h
    rw [placeAt_scalar (hnamed hrule htype hstructural) hstructural,
      placeAt_scalar (hnamed hrule htype hstructural) hstructural, hsame,
      placeAt_scalar (hnamed hother (hsame ▸ htype) (hsame ▸ hstructural)) (hsame ▸ hstructural),
      placeAt_scalar (hnamed hother (hsame ▸ htype) (hsame ▸ hstructural)) (hsame ▸ hstructural)]
    exact Multiset.cons_swap ..

end Rule

namespace Demand

/-- What a demand says of null. -/
def nullable? (demand : Demand) : Option Bool :=
  match demand.rule? with
  | some rule => if rule.implicit then none else some rule.nullable
  | none => none

/-- The checks of a type after a demand. -/
def placeAt (demand : Demand) (type : BaseType) (checks : Multiset Check) : Multiset Check :=
  match demand.rule? with
  | some rule => rule.placeAt type checks
  | none => checks

/-- The rule of a demand is plain. -/
def Plain (demand : Demand) : Prop := ∀ rule, demand.rule? = some rule → rule.Plain

/-- The rules of two demands do not replace each other, or are alike where they do. -/
def Compatible (first second : Demand) : Prop :=
  ∀ rule other, first.rule? = some rule → second.rule? = some other → rule.Compatible other

theorem placeAt_right_comm {first second : Demand} {type : BaseType} (htype : type ≠ .any)
    (hfirst : first.Plain) (hsecond : second.Plain) (hcompatible : first.Compatible second)
    (checks : Multiset Check) :
    second.placeAt type (first.placeAt type checks)
      = first.placeAt type (second.placeAt type checks) := by
  rw [placeAt, placeAt, placeAt, placeAt]
  cases hrule : first.rule? with
  | none => rfl
  | some rule =>
    cases hother : second.rule? with
    | none => rfl
    | some other =>
      simp only
      by_cases hruletype : rule.type = type
      · subst hruletype
        by_cases hothertype : other.type = rule.type
        · exact Rule.placeAt_right_comm htype (hfirst rule hrule) (hsecond other hother)
            hothertype.symm (hcompatible rule other hrule hother) checks
        · rw [Rule.placeAt_of_ne hothertype, Rule.placeAt_of_ne hothertype]
      · rw [Rule.placeAt_of_ne hruletype, Rule.placeAt_of_ne hruletype]

end Demand

namespace Digest

/-- The digest after a demand. -/
def meet (digest : Digest) (demand : Demand) : Digest where
  presence := digest.presence.bind (agree? · demand.strictness.presence?)
  nullable := digest.nullable.bind (agree? · demand.nullable?)
  checks type := if type = .any then 0 else demand.placeAt type (digest.checks type)

/-- The sources do not contradict each other. -/
def Consistent (digest : Digest) : Prop :=
  digest.presence.isSome = true ∧ digest.nullable.isSome = true

/-- **Two demands may be met in any order.** -/
theorem meet_right_comm {first second : Demand} (hfirst : first.Plain) (hsecond : second.Plain)
    (hcompatible : first.Compatible second) (digest : Digest) :
    (digest.meet first).meet second = (digest.meet second).meet first := by
  ext1
  · simp only [meet]
    cases digest.presence with
    | none => rfl
    | some known => exact agree?_right_comm ..
  · simp only [meet]
    cases digest.nullable with
    | none => rfl
    | some known => exact agree?_right_comm ..
  · funext type
    simp only [meet]
    by_cases htype : type = .any
    · rw [if_pos htype, if_pos htype]
    · rw [if_neg htype, if_neg htype, if_neg htype, if_neg htype]
      exact Demand.placeAt_right_comm htype hfirst hsecond hcompatible _

theorem Consistent.of_meet {digest : Digest} {demand : Demand}
    (h : (digest.meet demand).Consistent) : digest.Consistent := by
  obtain ⟨hpresence, hnullable⟩ := h
  constructor
  · cases hknown : digest.presence with
    | none => rw [meet, hknown] at hpresence; exact hpresence
    | some known => rfl
  · cases hknown : digest.nullable with
    | none => rw [meet, hknown] at hnullable; exact hnullable
    | some known => rfl

theorem Consistent.of_foldl {demands : List Demand} {digest : Digest}
    (h : (demands.foldl meet digest).Consistent) : digest.Consistent := by
  induction demands generalizing digest with
  | nil => exact h
  | cons demand rest ih => exact (ih h).of_meet

/-- **Demands may be met in any order**, if each two of them may. -/
theorem foldl_meet_perm {demands other : List Demand} (h : demands.Perm other)
    (hplain : ∀ demand ∈ demands, demand.Plain)
    (hcompatible : ∀ first ∈ demands, ∀ second ∈ demands, first.Compatible second)
    (digest : Digest) : demands.foldl meet digest = other.foldl meet digest :=
  h.foldl_eq' (fun first hfirst second hsecond known ↦ meet_right_comm (hplain first hfirst)
    (hplain second hsecond) (hcompatible first hfirst second hsecond) known) digest

end Digest

end DocumentSchema
