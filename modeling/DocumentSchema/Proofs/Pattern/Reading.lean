import DocumentSchema.Pattern.Parser
import DocumentSchema.Proofs.Pattern.Sets
import Mathlib.Logic.Relation

/-!
# Runs of the reader

A pattern is read in turns, each of which looks at the state and at what is left of the text. A
pattern's tree is what the state comes to where the turns end, if no group is open there
(`readPattern_eq_some_iff`), so what is to be known of the reader can be said of one turn and then
of every run.

What is said here is how a run on a text with the closing after it compares with the run on the text
alone. The two go side by side, until the text is at its end or the parenthesis is gone: each way,
the state is the same and the closing comes after what is left.
-/

namespace DocumentSchema.Pattern

variable {verbose : Bool} {text : List Char}

/-! ## Flags and names -/

theorem leaves_readFlags (done : FlagChanges) (off markLast : Bool) (text : List Char) :
    Leaves text (readFlags done off markLast text) := by
  induction text generalizing done off markLast with
  | nil => exact leaves_none
  | cons c rest ih =>
    rw [readFlags]
    split
    · split
      · exact leaves_none
      · exact leaves_some (List.suffix_cons ..)
    · split
      · split
        · exact leaves_none
        · exact (ih ..).cons c
      · split
        · exact leaves_none
        · split
          · exact leaves_none
          · exact (ih ..).cons c

theorem extends_readFlags (done : FlagChanges) (off markLast : Bool) (text : List Char) :
    Extends verbose text (readFlags done off markLast text)
      (readFlags done off markLast (text ++ closing)) := by
  induction text generalizing done off markLast with
  | nil =>
    refine extends_of_leaves ?_
    cases markLast with
    | true => exact leaves_none
    | false => exact leaves_some List.suffix_rfl
  | cons c rest ih =>
    rw [List.cons_append, readFlags, readFlags]
    split
    · split
      · exact extends_none
      · exact extends_some ..
    · split
      · split
        · exact extends_none
        · exact (ih ..).cons c
      · split
        · exact extends_none
        · split
          · exact extends_none
          · exact (ih ..).cons c

theorem leaves_readGroupName (text : List Char) : Leaves text (readGroupName text) := by
  have hrest : text.dropWhile (· ≠ '>') <:+ text := List.dropWhile_suffix _
  unfold readGroupName
  cases hname : text.dropWhile (· ≠ '>') with
  | nil => exact leaves_none
  | cons c rest =>
    rw [hname] at hrest
    exact leaves_map_of_some _ ((List.suffix_cons ..).trans hrest)

/-- There is no angle bracket in the closing. -/
theorem readGroupName_append (text : List Char) :
    readGroupName (text ++ closing) = (readGroupName text).map appendClosing := by
  rw [readGroupName, readGroupName]
  cases hbracket : text.dropWhile (· ≠ '>') with
  | nil =>
    have hnone : (text ++ closing).dropWhile (· ≠ '>') = [] := by
      rw [List.dropWhile_append, hbracket]
      rfl
    rw [hnone]
    rfl
  | cons c rest =>
    rw [dropWhile_append_of_cons hbracket, takeWhile_append_of_dropWhile hbracket]
    cases groupName? (text.takeWhile (· ≠ '>')) <;> rfl

/-! ## Groups -/

namespace State

variable (state : State)

theorem leaves_openNamed (text : List Char) : Leaves text (state.openNamed text) :=
  .bind (leaves_readGroupName text) fun _ _ ↦ leaves_map_of_some id List.suffix_rfl

theorem extends_openNamed (text : List Char) :
    Extends verbose text (state.openNamed text) (state.openNamed (text ++ closing)) :=
  .bind (.inl (readGroupName_append text)) (leaves_readGroupName text)
    (fun _ _ ↦ extends_map_of_some _ id fun _ ↦ extends_some ..)
    fun _ _ ↦ leaves_map_of_some id List.suffix_rfl

theorem leaves_openAngle (text : List Char) : Leaves text (state.openAngle text) := by
  unfold openAngle
  split
  · exact (state.leaves_openNamed _).cons _
  · exact leaves_none

theorem extends_openAngle (text : List Char) :
    Extends verbose text (state.openAngle text) (state.openAngle (text ++ closing)) := by
  cases text with
  | nil => exact extends_none
  | cons c rest =>
    by_cases hangle : c = '<'
    · subst hangle
      exact (state.extends_openNamed rest).cons _
    · rw [List.cons_append, openAngle.eq_2 _ _ (by simp [hangle]),
        openAngle.eq_2 _ _ (by simp [hangle])]
      exact extends_none

theorem leaves_openSpecial (text : List Char) : Leaves text (state.openSpecial text) := by
  unfold openSpecial
  split
  · exact (state.leaves_openAngle _).cons _
  · exact (state.leaves_openNamed _).cons _
  · exact .bind (leaves_readFlags ..) fun _ _ ↦ leaves_map_of_some id List.suffix_rfl

theorem extends_openSpecial (text : List Char) :
    Extends verbose text (state.openSpecial text) (state.openSpecial (text ++ closing)) := by
  have hflags (text : List Char) : Extends verbose text
      ((readFlags [] false false text).bind fun read ↦
        (state.changeFlags read.1.1 read.1.2).map fun state ↦ (state, read.2))
      ((readFlags [] false false (text ++ closing)).bind fun read ↦
        (state.changeFlags read.1.1 read.1.2).map fun state ↦ (state, read.2)) :=
    .bind (extends_readFlags ..) (leaves_readFlags ..)
      (fun _ _ ↦ extends_map_of_some _ id fun _ ↦ extends_some ..)
      fun _ _ ↦ leaves_map_of_some id List.suffix_rfl
  cases text with
  | nil => exact hflags []
  | cons c rest =>
    by_cases hletter : c = 'P'
    · subst hletter
      exact (state.extends_openAngle rest).cons _
    · by_cases hangle : c = '<'
      · subst hangle
        exact (state.extends_openNamed rest).cons _
      · rw [List.cons_append, openSpecial.eq_3 _ _ (by simp [hletter]) (by simp [hangle]),
          openSpecial.eq_3 _ _ (by simp [hletter]) (by simp [hangle])]
        exact hflags (c :: rest)

theorem leaves_openAfterBlanks (text : List Char) : Leaves text (state.openAfterBlanks text) := by
  unfold openAfterBlanks
  split
  · exact (state.leaves_openSpecial _).cons _
  · exact leaves_some List.suffix_rfl

theorem extends_openAfterBlanks (text : List Char) :
    Extends verbose text (state.openAfterBlanks text)
      (state.openAfterBlanks (text ++ closing)) := by
  cases text with
  | nil => exact extends_some ..
  | cons c rest =>
    by_cases hmark : c = '?'
    · subst hmark
      exact (state.extends_openSpecial rest).cons _
    · rw [List.cons_append, openAfterBlanks.eq_2 _ _ (by simp [hmark]),
        openAfterBlanks.eq_2 _ _ (by simp [hmark])]
      exact extends_some ..

theorem leaves_openParenthesis (text : List Char) : Leaves text (state.openParenthesis text) :=
  leaves_skipBlanks fun _ _ ↦ state.leaves_openAfterBlanks _

theorem extends_openParenthesis (text : List Char) :
    Extends state.verbose text (state.openParenthesis text)
      (state.openParenthesis (text ++ closing)) :=
  extends_skipBlanks (fun _ _ ↦ state.extends_openAfterBlanks _) (state.leaves_openAfterBlanks _)

end State

/-! ## Bounds -/

theorem leaves_closeBounds (least : Nat) (most : Option Nat) (rest : List Char) :
    Leaves rest (closeBounds least (most, rest)) := by
  unfold closeBounds
  split
  · rename_i heq
    obtain ⟨rfl, rfl⟩ := Prod.mk.inj heq
    split
    · exact leaves_some (List.suffix_cons ..)
    · exact leaves_none
  · exact leaves_none

theorem extends_closeBounds (least : Nat) (most : Option Nat) (rest : List Char) :
    Extends verbose rest (closeBounds least (most, rest))
      (closeBounds least (most, rest ++ closing)) := by
  have hnone {most : Option Nat} {rest : List Char} (h : rest.head? ≠ some '\x7d' ∨ most = none) :
      closeBounds least (most, rest) = none := by
    refine closeBounds.eq_2 _ _ fun bound left heq ↦ ?_
    obtain ⟨rfl, rfl⟩ := Prod.mk.inj heq
    simp at h
  cases most with
  | none => rw [hnone (.inr rfl), hnone (.inr rfl)]; exact extends_none
  | some most =>
    cases rest with
    | nil => exact extends_none
    | cons c rest =>
      by_cases hbrace : c = '\x7d'
      · subst hbrace
        rw [List.cons_append, closeBounds, closeBounds]
        split
        · exact extends_some ..
        · exact extends_none
      · have hhead (left : List Char) : (c :: left).head? ≠ some '\x7d' := by simp [hbrace]
        rw [List.cons_append, hnone (.inl (hhead _)), hnone (.inl (hhead _))]
        exact extends_none

theorem leaves_readUpperBound (verbose : Bool) (least : Nat) (text : List Char) :
    Leaves text (readUpperBound verbose least text) := by
  unfold readUpperBound
  split
  · exact leaves_some (List.suffix_cons ..)
  · exact .bind (leaves_readBound ..) (leaves_closeBounds least)

theorem extends_readUpperBound (verbose : Bool) (least : Nat) (text : List Char) :
    Extends verbose text (readUpperBound verbose least text)
      (readUpperBound verbose least (text ++ closing)) := by
  have hbound (text : List Char) : Extends verbose text (closeBounds least (readBound verbose text))
      (closeBounds least (readBound verbose (text ++ closing))) :=
    .bind (extends_readBound ..) (leaves_readBound ..) (extends_closeBounds least)
      (leaves_closeBounds least)
  cases text with
  | nil => exact hbound []
  | cons c rest =>
    by_cases hbrace : c = '\x7d'
    · subst hbrace
      exact extends_some ..
    · rw [List.cons_append, readUpperBound.eq_2 _ _ _ (by simp [hbrace]),
        readUpperBound.eq_2 _ _ _ (by simp [hbrace])]
      exact hbound (c :: rest)

theorem leaves_readBoundsEnd (verbose : Bool) (least : Nat) (text : List Char) :
    Leaves text (readBoundsEnd verbose least text) := by
  unfold readBoundsEnd
  split
  · exact leaves_some (List.suffix_cons ..)
  · exact .cons (leaves_skipBlanks fun _ _ ↦ leaves_readUpperBound ..) _
  · exact leaves_none

theorem extends_readBoundsEnd (verbose : Bool) (least : Nat) (text : List Char) :
    Extends verbose text (readBoundsEnd verbose least text)
      (readBoundsEnd verbose least (text ++ closing)) := by
  cases text with
  | nil => exact extends_none
  | cons c rest =>
    by_cases hbrace : c = '\x7d'
    · subst hbrace
      exact extends_some ..
    · by_cases hcomma : c = ','
      · subst hcomma
        exact .cons (extends_skipBlanks (fun _ _ ↦ extends_readUpperBound ..)
          (leaves_readUpperBound ..)) _
      · rw [List.cons_append, readBoundsEnd.eq_3 _ _ _ (by simp [hbrace]) (by simp [hcomma]),
          readBoundsEnd.eq_3 _ _ _ (by simp [hbrace]) (by simp [hcomma])]
        exact extends_none

theorem leaves_readBoundsAfter (verbose : Bool) (least : Option Nat) (rest : List Char) :
    Leaves rest (readBoundsAfter verbose (least, rest)) := by
  cases least with
  | none => exact leaves_none
  | some least => exact leaves_readBoundsEnd ..

theorem extends_readBoundsAfter (verbose : Bool) (least : Option Nat) (rest : List Char) :
    Extends verbose rest (readBoundsAfter verbose (least, rest))
      (readBoundsAfter verbose (least, rest ++ closing)) := by
  cases least with
  | none => exact extends_none
  | some least => exact extends_readBoundsEnd ..

theorem leaves_readBoundsStart (verbose : Bool) (text : List Char) :
    Leaves text (readBoundsStart verbose text) :=
  .bind (leaves_readBound ..) (leaves_readBoundsAfter verbose)

theorem extends_readBoundsStart (verbose : Bool) (text : List Char) :
    Extends verbose text (readBoundsStart verbose text)
      (readBoundsStart verbose (text ++ closing)) :=
  .bind (extends_readBound ..) (leaves_readBound ..) (extends_readBoundsAfter verbose)
    (leaves_readBoundsAfter verbose)

theorem leaves_readBounds (verbose : Bool) (text : List Char) :
    Leaves text (readBounds verbose text) :=
  leaves_skipBlanks fun _ _ ↦ leaves_readBoundsStart ..

theorem extends_readBounds (verbose : Bool) (text : List Char) :
    Extends verbose text (readBounds verbose text) (readBounds verbose (text ++ closing)) :=
  extends_skipBlanks (fun _ _ ↦ extends_readBoundsStart ..) (leaves_readBoundsStart ..)

theorem skipLazyMark_suffix (text : List Char) : skipLazyMark text <:+ text := by
  unfold skipLazyMark
  split
  · exact List.suffix_cons ..
  · exact List.suffix_rfl

theorem skipLazyMark_append (text : List Char) :
    skipLazyMark (text ++ closing) = skipLazyMark text ++ closing := by
  cases text with
  | nil => rfl
  | cons c rest =>
    by_cases hmark : c = '?'
    · subst hmark
      rfl
    · rw [List.cons_append, skipLazyMark.eq_2 _ (by simp [hmark]),
        skipLazyMark.eq_2 _ (by simp [hmark])]
      rfl

/-! ## Turns -/

namespace State

variable (state : State)

theorem verbose_of_repeatLast {state next : State} {least : Nat} {most : Option Nat}
    (h : state.repeatLast least most = some next) : next.verbose = state.verbose := by
  unfold repeatLast at h
  split at h
  · cases h
  · cases h
  · obtain rfl := Option.some.inj h
    rfl

theorem leaves_repeatLast (least : Nat) (most : Option Nat) (rest : List Char) :
    Leaves rest ((state.repeatLast least most).map fun state ↦
      (state, skipLazyMark (skipBlanks state.verbose rest))) := by
  cases state.repeatLast least most with
  | none => exact leaves_none
  | some next => exact leaves_some ((skipLazyMark_suffix _).trans (skipBlanks_suffix ..))

theorem extends_repeatLast (least : Nat) (most : Option Nat) (rest : List Char) :
    Extends state.verbose rest
      ((state.repeatLast least most).map fun state ↦
        (state, skipLazyMark (skipBlanks state.verbose rest)))
      ((state.repeatLast least most).map fun state ↦
        (state, skipLazyMark (skipBlanks state.verbose (rest ++ closing)))) := by
  cases hrepeat : state.repeatLast least most with
  | none => exact extends_none
  | some next =>
    rw [Option.map_some, Option.map_some, verbose_of_repeatLast hrepeat]
    refine extends_skipBlanks (f := fun left ↦ some (next, skipLazyMark left))
      (g := fun left ↦ some (next, skipLazyMark left)) (fun left _ ↦ ?_)
      (leaves_some List.suffix_rfl)
    rw [skipLazyMark_append]
    exact (extends_some ..)

theorem leaves_turn (mark : Mark) (text : List Char) : Leaves text (state.turn mark text) := by
  cases mark with
  | opening => exact state.leaves_openParenthesis text
  | closing => exact leaves_map_of_some id List.suffix_rfl
  | bar => exact leaves_some List.suffix_rfl
  | bracket => exact .bind (leaves_readBrackets ..) fun _ _ ↦ leaves_some List.suffix_rfl
  | repetition least most => exact leaves_map_of_some id (skipLazyMark_suffix text)
  | bounds => exact .bind (leaves_readBounds ..) fun _ _ ↦ state.leaves_repeatLast ..
  | escape => exact .bind (leaves_readEscape ..) fun _ _ ↦ leaves_some List.suffix_rfl
  | item item => exact leaves_some List.suffix_rfl

/-- **A turn does not care about the closing.** -/
theorem extends_turn (mark : Mark) (text : List Char) :
    Extends state.verbose text (state.turn mark text) (state.turn mark (text ++ closing)) := by
  cases mark with
  | opening => exact state.extends_openParenthesis text
  | closing => exact extends_map_of_some _ id fun _ ↦ extends_some ..
  | bar => exact extends_some ..
  | bracket =>
    exact .bind (extends_readBrackets ..) (leaves_readBrackets ..) (fun _ _ ↦ extends_some ..)
      fun _ _ ↦ leaves_some List.suffix_rfl
  | repetition least most =>
    refine extends_map_of_some _ id fun next ↦ ?_
    rw [skipLazyMark_append]
    exact extends_some ..
  | bounds =>
    exact .bind (extends_readBounds ..) (leaves_readBounds ..)
      (fun _ _ ↦ state.extends_repeatLast ..) fun _ _ ↦ state.leaves_repeatLast ..
  | escape =>
    exact .bind (extends_readEscape ..) (leaves_readEscape ..) (fun _ _ ↦ extends_some ..)
      fun _ _ ↦ leaves_some List.suffix_rfl
  | item item => exact extends_some ..

end State

/-! ## Runs -/

/-- One turn of a run, from its state and what is left of the text to the next ones. -/
def Turn (one next : State × List Char) : Prop :=
  ∃ c rest, skipBlanks one.1.verbose one.2 = c :: rest ∧ one.1.turn (.ofChar c) rest = some next

def Reads : State × List Char → State × List Char → Prop := Relation.ReflTransGen Turn

variable {one next start : State × List Char} {state last : State} {left : List Char} {tree : Tree}

theorem Turn.suffix (h : Turn one next) : next.2 <:+ one.2 := by
  obtain ⟨c, rest, hblanks, hturn⟩ := h
  have hrest : c :: rest <:+ one.2 := hblanks ▸ skipBlanks_suffix ..
  exact ((one.1.leaves_turn _ rest).suffix _ _ hturn).trans ((List.suffix_cons ..).trans hrest)

theorem Turn.unique {other : State × List Char} (h : Turn one next) (hother : Turn one other) :
    next = other := by
  obtain ⟨c, rest, hblanks, hturn⟩ := h
  obtain ⟨d, left, hblanks', hturn'⟩ := hother
  obtain ⟨rfl, rfl⟩ := List.cons.inj (hblanks.symm.trans hblanks')
  exact Option.some.inj (hturn.symm.trans hturn')

theorem Reads.suffix (h : Reads one next) : next.2 <:+ one.2 := by
  induction h with
  | refl => exact List.suffix_rfl
  | tail _ hturn ih => exact hturn.suffix.trans ih

/-- A run on a text with the closing after it is the run on the text alone, until the parenthesis is
gone. -/
theorem Reads.alone (h : Reads (state, text ++ closing) next) :
    (∃ left, next.2 = left ++ closing ∧ Reads (state, text) (next.1, left)) ∨ next.2 <:+ ['$'] := by
  induction h with
  | refl => exact .inl ⟨text, rfl, .refl⟩
  | @tail one next _ hturn ih =>
    rcases ih with ⟨left, hleft, halone⟩ | hgone
    · obtain ⟨c, rest, hblanks, hnext⟩ := hturn
      rw [hleft] at hblanks
      rcases skipBlanks_append one.1.verbose left with happend | ⟨-, -, hnone⟩
      · rw [happend] at hblanks
        cases hskip : skipBlanks one.1.verbose left with
        | nil =>
          -- The text is at its end, so this turn takes the parenthesis.
          rw [hskip] at hblanks
          obtain ⟨rfl, rfl⟩ := List.cons.inj hblanks
          exact .inr ((one.1.leaves_turn _ _).suffix _ _ hnext)
        | cons d others =>
          rw [hskip, List.cons_append] at hblanks
          obtain ⟨rfl, rfl⟩ := List.cons.inj hblanks
          rcases one.1.extends_turn (.ofChar d) others with heq | ⟨-, hgone⟩
          · rw [heq] at hnext
            obtain ⟨⟨state, left⟩, hturn, rfl⟩ := Option.map_eq_some_iff.mp hnext
            exact .inl ⟨left, rfl, halone.tail ⟨d, others, hskip, hturn⟩⟩
          · exact .inr (hgone.suffix _ _ hnext)
      · cases hnone.symm.trans hblanks
    · exact .inr (hturn.suffix.trans hgone)

/-- Somewhere in the run verbose mode is on and the sign of a comment follows. -/
def Comments (start : State × List Char) : Prop :=
  ∃ state left, Reads start (state, left) ∧ state.verbose = true ∧ '#' ∈ left

/-- The run on a text alone is the run on the text with the closing after it, unless there may be a
comment that takes the closing. -/
theorem Reads.extended (h : Reads (state, text) next) :
    Reads (state, text ++ closing) (next.1, next.2 ++ closing) ∨ Comments (state, text) := by
  induction h with
  | refl => exact .inl .refl
  | @tail one next halone hturn ih =>
    refine ih.elim (fun hreads ↦ ?_) .inr
    have hcomments (h : one.1.verbose = true ∧ '#' ∈ one.2) : Comments (state, text) :=
      ⟨one.1, one.2, halone, h⟩
    obtain ⟨c, rest, hblanks, hnext⟩ := hturn
    have hrest : c :: rest <:+ one.2 := hblanks ▸ skipBlanks_suffix ..
    rcases skipBlanks_append one.1.verbose one.2 with happend | ⟨hsign, -⟩
    · rw [hblanks] at happend
      rcases one.1.extends_turn (.ofChar c) rest with heq | ⟨hnone | hsign, -⟩
      · rw [hnext] at heq
        exact .inl (hreads.tail ⟨c, rest ++ closing, happend, heq⟩)
      · cases hnext.symm.trans hnone
      · exact .inr (hcomments ⟨hsign.1, hrest.mem (List.mem_cons_of_mem c hsign.2)⟩)
    · exact .inr (hcomments hsign)

end DocumentSchema.Pattern
