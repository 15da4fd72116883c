import DocumentSchema.Pattern.Match
import Mathlib.Data.Finset.Card
import Mathlib.Logic.Function.Iterate

/-!
# What a pattern matches

`Pattern.Spans` says which parts of a text a pattern matches, with no regard to how they are found:
a part is given by the places where it begins and ends, because conditions look at the characters
around a place. The matcher follows sets of places instead, and answers whether any part of a text
is matched.

For every construct the set that is reached from a set of places consists of the ends of the parts
that begin in it (`followed`). What needs an argument is repetition: only places that were not
seen before are followed further, which loses nothing (`Covers`), and without an upper bound as many
turns as there are places are enough, because a turn that reaches nothing new is the last.
-/

namespace DocumentSchema.Pattern

/-! ## Parts of a text -/

def Iterated (step : Nat → Nat → Prop) : Nat → Nat → Nat → Prop
  | 0, first, last => first = last
  | count + 1, first, last => ∃ middle, step first middle ∧ Iterated step count middle last

def before? (text : List Char) : Nat → Option Char
  | 0 => none
  | previous + 1 => text[previous]?

/-- The pattern matches the part of a text between two places. An upper bound of a repetition that
is below the lower bound is as good as the lower bound. -/
def Spans (text : List Char) : Pattern → Nat → Nat → Prop
  | .empty, first, last => first = last
  | .chars set, first, last => last = first + 1 ∧ ∃ c, text[first]? = some c ∧ set.contains c = true
  | .place condition, first, last =>
    first = last ∧ condition.holds (before? text first) text[first]? = true
  | .sequence one other, first, last => ∃ middle, Spans text one first middle ∧
    Spans text other middle last
  | .choice one other, first, last => Spans text one first last ∨ Spans text other first last
  | .repeated body least most, first, last => ∃ count, least ≤ count ∧
    (∀ bound, most = some bound → count ≤ max least bound) ∧
      Iterated (Spans text body) count first last

theorem iterated_add {step : Nat → Nat → Prop} (count more first last : Nat) :
    Iterated step (count + more) first last ↔
      ∃ middle, Iterated step count first middle ∧ Iterated step more middle last := by
  induction count generalizing first with
  | zero => simp [Iterated]
  | succ count ih =>
    rw [Nat.add_right_comm]
    simp only [Iterated, ih]
    constructor
    · rintro ⟨next, hnext, middle, hcount, hmore⟩
      exact ⟨middle, ⟨next, hnext, hcount⟩, hmore⟩
    · rintro ⟨middle, ⟨next, hnext, hcount⟩, hmore⟩
      exact ⟨next, hnext, middle, hcount, hmore⟩

theorem Iterated.preserves {step : Nat → Nat → Prop} {motive : Nat → Prop}
    (hstep : ∀ {first last : Nat}, motive first → step first last → motive last)
    {count first last : Nat} (h : Iterated step count first last) (hfirst : motive first) :
    motive last := by
  induction count generalizing first with
  | zero => exact h ▸ hfirst
  | succ count ih =>
    obtain ⟨middle, hmiddle, hrest⟩ := h
    exact ih hrest (hstep hfirst hmiddle)

/-! ## Sets of places -/

/-- All places of the set are among the first so many. -/
def Within (size : Nat) (places : Places) : Prop :=
  ∀ place, places.testBit place = true → place < size

/-! ## Repetition -/

section Repetition

variable {size : Nat} {step : Places → Places} {relation : Nat → Nat → Prop}

/-- A step on sets of places follows a relation, and stays among the first so many places. -/
structure Follows (size : Nat) (relation : Nat → Nat → Prop) (step : Places → Places) : Prop where
  lt : ∀ {first last : Nat}, first < size → relation first last → last < size
  iff : ∀ {places : Places}, Within size places → ∀ last,
    (step places).testBit last = true ↔
      ∃ first, places.testBit first = true ∧ relation first last

theorem Follows.within (h : Follows size relation step) {places : Places}
    (hplaces : Within size places) : Within size (step places) := by
  intro last hlast
  obtain ⟨first, hfirst, hrelation⟩ := (h.iff hplaces last).mp hlast
  exact h.lt (hplaces first hfirst) hrelation

/-- Turns that change nothing may be left out. -/
theorem turns_eq_iterate (step : Places → Places) (count : Nat) (places : Places) :
    turns step count places = step^[count] places := by
  induction count generalizing places with
  | zero => rfl
  | succ count ih =>
    rw [turns, Function.iterate_succ_apply]
    split
    · rename_i hfixed
      rw [hfixed, Function.iterate_fixed hfixed]
    · exact ih _

theorem Follows.iterate (h : Follows size relation step) (count : Nat) :
    Follows size (Iterated relation count) step^[count] := by
  induction count with
  | zero => exact ⟨fun hfirst heq ↦ heq ▸ hfirst, fun _ last ↦ by simp [Iterated]⟩
  | succ count ih =>
    refine ⟨fun hfirst hiterated ↦ hiterated.preserves (motive := (· < size))
      (fun hlt hrelation ↦ h.lt hlt hrelation) hfirst, fun {places} hplaces last ↦ ?_⟩
    rw [Function.iterate_succ_apply, ih.iff (h.within hplaces)]
    constructor
    · rintro ⟨middle, hmiddle, hrest⟩
      obtain ⟨first, hfirst, hrelation⟩ := (h.iff hplaces middle).mp hmiddle
      exact ⟨first, hfirst, middle, hrelation, hrest⟩
    · rintro ⟨first, hfirst, middle, hrelation, hrest⟩
      exact ⟨middle, (h.iff hplaces middle).mpr ⟨first, hfirst, hrelation⟩, hrest⟩

/-- What was seen holds the latest places, and from all others of it one step leads back into it. -/
structure Covers (size : Nat) (relation : Nat → Nat → Prop) (latest seen : Places) : Prop where
  within : Within size seen
  subset : ∀ place, latest.testBit place = true → seen.testBit place = true
  closed : ∀ first last, seen.testBit first = true → latest.testBit first = false →
    relation first last → seen.testBit last = true

theorem Covers.within_latest {latest seen : Places} (h : Covers size relation latest seen) :
    Within size latest := fun place hplace ↦ h.within place (h.subset place hplace)

theorem testBit_fresh (next seen : Places) (place : Nat) :
    (next ^^^ (next &&& seen)).testBit place = true ↔
      next.testBit place = true ∧ seen.testBit place = false := by
  rw [Nat.testBit_xor, Nat.testBit_and]
  cases next.testBit place <;> cases seen.testBit place <;> simp

/-- If there is nothing new, what was seen is all there is. -/
theorem Covers.closed_of_fresh_eq_zero (hstep : Follows size relation step) {latest seen : Places}
    (h : Covers size relation latest seen)
    (hfresh : step latest ^^^ (step latest &&& seen) = 0) {first last count : Nat}
    (hfirst : seen.testBit first = true) (hlast : Iterated relation count first last) :
    seen.testBit last = true := by
  induction count generalizing first with
  | zero => exact hlast ▸ hfirst
  | succ count ih =>
    obtain ⟨middle, hmiddle, hrest⟩ := hlast
    refine ih ?_ hrest
    cases hlatest : latest.testBit first with
    | false => exact h.closed first middle hfirst hlatest hmiddle
    | true =>
      by_contra hseen
      have hnext := (hstep.iff h.within_latest middle).mpr ⟨first, hlatest, hmiddle⟩
      have hbit := (testBit_fresh (step latest) seen middle).mpr ⟨hnext, by simpa using hseen⟩
      rw [hfresh, Nat.zero_testBit] at hbit
      cases hbit

theorem Covers.next (hstep : Follows size relation step) {latest seen : Places}
    (h : Covers size relation latest seen) :
    Covers size relation (step latest ^^^ (step latest &&& seen))
      (seen ||| (step latest ^^^ (step latest &&& seen))) := by
  have hbit (place : Nat) :
      (seen ||| (step latest ^^^ (step latest &&& seen))).testBit place = true ↔
        seen.testBit place = true ∨ (step latest).testBit place = true := by
    rw [Nat.testBit_or, Bool.or_eq_true, testBit_fresh]
    cases seen.testBit place <;> simp
  refine ⟨fun place hplace ↦ ?_, fun place hplace ↦ ?_, fun first last hfirst hold hrelation ↦ ?_⟩
  · rcases (hbit place).mp hplace with hseen | hnext
    · exact h.within place hseen
    · exact hstep.within h.within_latest place hnext
  · exact (hbit place).mpr (.inr ((testBit_fresh ..).mp hplace).1)
  · rw [hbit]
    have hseen : seen.testBit first = true := by
      rcases (hbit first).mp hfirst with hseen | hnext
      · exact hseen
      · by_contra hnot
        rw [(testBit_fresh ..).mpr ⟨hnext, by simpa using hnot⟩] at hold
        cases hold
    cases hlatest : latest.testBit first with
    | false => exact .inl (h.closed first last hseen hlatest hrelation)
    | true => exact .inr ((hstep.iff h.within_latest last).mpr ⟨first, hlatest, hrelation⟩)

/-- **Following new places alone loses nothing.** -/
theorem testBit_spread (hstep : Follows size relation step) (count : Nat) {latest seen : Places}
    (h : Covers size relation latest seen) (last : Nat) :
    (spread step count latest seen).testBit last = true ↔ ∃ turns ≤ count, ∃ first,
      seen.testBit first = true ∧ Iterated relation turns first last := by
  induction count generalizing latest seen with
  | zero => simp [spread, Iterated]
  | succ count ih =>
    rw [spread]
    split
    · rename_i hfresh
      constructor
      · exact fun hlast ↦ ⟨0, Nat.zero_le _, last, hlast, rfl⟩
      · rintro ⟨turns, -, first, hfirst, hiterated⟩
        exact h.closed_of_fresh_eq_zero hstep hfresh hfirst hiterated
    · rw [ih (h.next hstep)]
      constructor
      · rintro ⟨turns, hturns, first, hfirst, hiterated⟩
        rw [Nat.testBit_or, Bool.or_eq_true, testBit_fresh] at hfirst
        rcases hfirst with hseen | ⟨hnext, -⟩
        · exact ⟨turns, hturns.trans (Nat.le_succ _), first, hseen, hiterated⟩
        · obtain ⟨start, hstart, hrelation⟩ := (hstep.iff h.within_latest first).mp hnext
          exact ⟨turns + 1, Nat.succ_le_succ hturns, start, h.subset start hstart, first, hrelation,
            hiterated⟩
      · rintro ⟨turns, hturns, first, hfirst, hiterated⟩
        cases turns with
        | zero =>
          exact ⟨0, Nat.zero_le _, first, by rw [Nat.testBit_or, hfirst, Bool.true_or], hiterated⟩
        | succ turns =>
          obtain ⟨middle, hmiddle, hrest⟩ := hiterated
          refine ⟨turns, Nat.le_of_succ_le_succ hturns, middle, ?_, hrest⟩
          rw [Nat.testBit_or, Bool.or_eq_true, testBit_fresh]
          cases hseen : seen.testBit middle with
          | true => exact .inl rfl
          | false =>
            refine .inr ⟨?_, rfl⟩
            cases hlatest : latest.testBit first with
            | true => exact (hstep.iff h.within_latest middle).mpr ⟨first, hlatest, hmiddle⟩
            | false =>
              rw [h.closed first middle hfirst hlatest hmiddle] at hseen
              cases hseen

def seenCount (size : Nat) (seen : Places) : Nat :=
  ((Finset.range size).filter fun place ↦ seen.testBit place = true).card

theorem seenCount_lt {seen more : Places} {place : Nat} (hplace : place < size)
    (hseen : seen.testBit place = false) (hmore : more.testBit place = true) :
    seenCount size seen < seenCount size (seen ||| more) := by
  refine Finset.card_lt_card (Finset.ssubset_iff_of_subset ?_ |>.mpr ⟨place, ?_, ?_⟩)
  · intro other hother
    rw [Finset.mem_filter] at hother ⊢
    exact ⟨hother.1, by rw [Nat.testBit_or, hother.2, Bool.true_or]⟩
  · rw [Finset.mem_filter, Finset.mem_range, Nat.testBit_or, hmore, Bool.or_true]
    exact ⟨hplace, rfl⟩
  · rw [Finset.mem_filter, hseen]
    simp

/-- **As many turns as there are places are enough.** Each but the last reaches a new one. -/
theorem testBit_spread_of_size_le (hstep : Follows size relation step) (count : Nat)
    {latest seen : Places} (h : Covers size relation latest seen)
    (hcount : size ≤ count + seenCount size seen) (last : Nat) :
    (spread step count latest seen).testBit last = true ↔ ∃ turns first,
      seen.testBit first = true ∧ Iterated relation turns first last := by
  have hbounded := testBit_spread hstep count h last
  refine ⟨fun hlast ↦ ?_, ?_⟩
  · obtain ⟨turns, -, hturns⟩ := hbounded.mp hlast
    exact ⟨turns, hturns⟩
  rintro ⟨turns, first, hfirst, hiterated⟩
  induction count generalizing latest seen turns first with
  | zero =>
    -- All places were seen already.
    have hall : (Finset.range size).filter (fun place ↦ seen.testBit place = true) =
        Finset.range size := by
      refine Finset.eq_of_subset_of_card_le (Finset.filter_subset ..) ?_
      rw [Finset.card_range]
      simpa [seenCount] using hcount
    have hlast := (hstep.iterate turns).lt (h.within first hfirst) hiterated
    rw [← Finset.mem_range, ← hall, Finset.mem_filter] at hlast
    exact hlast.2
  | succ count ih =>
    rw [spread]
    split
    · rename_i hfresh
      exact h.closed_of_fresh_eq_zero hstep hfresh hfirst hiterated
    · rename_i hfresh
      obtain ⟨place, hplace⟩ := Nat.exists_testBit_of_ne_zero hfresh
      have hnew := (testBit_fresh ..).mp hplace
      have hgrows : seenCount size seen < seenCount size
          (seen ||| (step latest ^^^ (step latest &&& seen))) :=
        seenCount_lt (hstep.within h.within_latest place hnew.1) hnew.2 hplace
      refine ih (h.next hstep) (by omega) (testBit_spread hstep count (h.next hstep) last) turns
        first ?_ hiterated
      rw [Nat.testBit_or, hfirst, Bool.true_or]

theorem covers_self {places : Places} (hplaces : Within size places) :
    Covers size relation places places :=
  ⟨hplaces, fun _ h ↦ h, fun first last hfirst hnot _ ↦ by rw [hfirst] at hnot; cases hnot⟩

/-- So a bound above the number of places is as good as none. -/
theorem testBit_spread_min (hstep : Follows size relation step) (bound : Option Nat)
    {places : Places} (hplaces : Within size places) (last : Nat) :
    (spread step ((bound.map (min size)).getD size) places places).testBit last = true ↔
      ∃ turns, (∀ most, bound = some most → turns ≤ most) ∧ ∃ first,
        places.testBit first = true ∧ Iterated relation turns first last := by
  have hcovers : Covers size relation places places := covers_self hplaces
  have hunbounded := testBit_spread_of_size_le hstep size hcovers (Nat.le_add_right ..) last
  cases bound with
  | none => simpa using hunbounded
  | some most =>
    rw [Option.map_some, Option.getD_some, testBit_spread hstep _ hcovers]
    rcases Nat.le_total most size with hle | hle
    · simp [Nat.min_eq_right hle]
    · rw [Nat.min_eq_left hle, ← testBit_spread hstep _ hcovers, hunbounded]
      constructor
      · intro hturns
        obtain ⟨turns, hsize, hturns⟩ :=
          (testBit_spread hstep size hcovers last).mp (hunbounded.mpr hturns)
        refine ⟨turns, fun other hother ↦ ?_, hturns⟩
        obtain rfl := Option.some.inj hother
        exact hsize.trans hle
      · rintro ⟨turns, -, hturns⟩
        exact ⟨turns, hturns⟩

end Repetition

/-! ## Reaching -/

section Reaching

variable {text : List Char}

theorem Spans.le {pattern : Pattern} {first last : Nat} (h : pattern.Spans text first last)
    (hfirst : first ≤ text.length) : last ≤ text.length := by
  induction pattern generalizing first last with
  | empty => exact h ▸ hfirst
  | place condition => exact h.1 ▸ hfirst
  | chars set =>
    obtain ⟨rfl, c, hc, -⟩ := h
    exact (List.getElem?_eq_some_iff.mp hc).1
  | sequence one other ihOne ihOther =>
    obtain ⟨middle, hone, hother⟩ := h
    exact ihOther hother (ihOne hone hfirst)
  | choice one other ihOne ihOther =>
    exact h.elim (ihOne · hfirst) (ihOther · hfirst)
  | repeated body least most ih =>
    obtain ⟨count, -, -, hcount⟩ := h
    exact hcount.preserves (fun hle hspans ↦ ih hspans hle) hfirst

theorem Laid.reach_repeated (size : Nat) (body : Laid) (least : Nat) (most : Option Nat)
    (places : Places) :
    (Laid.repeated body least most).reach size places =
      spread (body.reach size) (((most.map (· - least)).map (min size)).getD size)
        (turns (body.reach size) least places) (turns (body.reach size) least places) := by
  cases most <;> rfl

/-- The matcher, started at some places, reaches the ends of the parts that begin there. -/
abbrev Followed (text : List Char) (pattern : Pattern) : Prop :=
  Follows (text.length + 1) (Spans text pattern) ((lay text pattern).reach (text.length + 1))

section Composed

variable {one other : Pattern}

theorem Followed.sequence (hone : Followed text one) (hother : Followed text other) :
    Followed text (.sequence one other) := by
  refine ⟨fun hfirst ⟨_, hmiddle, hlast⟩ ↦ hother.lt (hone.lt hfirst hmiddle) hlast,
    fun {places} hplaces last ↦ ?_⟩
  rw [lay, Laid.reach, hother.iff (hone.within hplaces)]
  simp only [hone.iff hplaces, Spans]
  constructor
  · rintro ⟨middle, ⟨first, hfirst, hmiddle⟩, hlast⟩
    exact ⟨first, hfirst, middle, hmiddle, hlast⟩
  · rintro ⟨first, hfirst, middle, hmiddle, hlast⟩
    exact ⟨middle, ⟨first, hfirst, hmiddle⟩, hlast⟩

theorem Followed.choice (hone : Followed text one) (hother : Followed text other) :
    Followed text (.choice one other) := by
  refine ⟨fun hfirst hspans ↦ hspans.elim (hone.lt hfirst) (hother.lt hfirst),
    fun {places} hplaces last ↦ ?_⟩
  rw [lay, Laid.reach, Nat.testBit_or, Bool.or_eq_true, hone.iff hplaces, hother.iff hplaces]
  simp only [Spans, and_or_left, exists_or]

theorem Followed.repeated (hone : Followed text one) (least : Nat) (most : Option Nat) :
    Followed text (.repeated one least most) := by
  have hleast := hone.iterate least
  refine ⟨fun hfirst ⟨_, _, _, hcount⟩ ↦ (hone.iterate _).lt hfirst hcount,
    fun {places} hplaces last ↦ ?_⟩
  rw [lay, Laid.reach_repeated, turns_eq_iterate, testBit_spread_min hone _ (hleast.within hplaces)]
  simp only [hleast.iff hplaces, Spans]
  constructor
  · rintro ⟨turns, hturns, middle, ⟨first, hfirst, hmiddle⟩, hlast⟩
    refine ⟨first, hfirst, least + turns, Nat.le_add_right .., fun bound hbound ↦ ?_,
      (iterated_add ..).mpr ⟨middle, hmiddle, hlast⟩⟩
    have hle := hturns (bound - least) (by rw [hbound]; rfl)
    omega
  · rintro ⟨first, hfirst, count, hcount, hbounds, hspans⟩
    obtain ⟨turns, rfl⟩ := Nat.exists_eq_add_of_le hcount
    obtain ⟨middle, hmiddle, hlast⟩ := (iterated_add ..).mp hspans
    refine ⟨turns, fun bound hbound ↦ ?_, middle, ⟨first, hfirst, hmiddle⟩, hlast⟩
    obtain ⟨upper, hupper, rfl⟩ := Option.map_eq_some_iff.mp hbound
    have hle := hbounds upper hupper
    omega

end Composed

end Reaching

end DocumentSchema.Pattern
