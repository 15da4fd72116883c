import DocumentSchema.Proofs.Pattern.Lookahead

/-!
# What readers of sets look at

A set in brackets ends with a bracket, which the closing of a pattern does not have. So a set that
is read with the closing after it was read alone: what a hyphen means, whether two characters are an
operation and whether a name between colons is one are the only questions that look further than one
character, and the closing answers none of them.
-/

namespace DocumentSchema.Pattern

variable {verbose : Bool} {text : List Char}

/-! ## The opening -/

theorem leaves_startSet (verbose negated : Bool) (hyphens rest : List Char) :
    Leaves rest (some (startSet verbose negated (hyphens, rest))) := by
  unfold startSet
  split
  · rename_i heq
    obtain ⟨rfl, rfl⟩ := Prod.mk.inj heq
    exact (leaves_some_skipBlanks _).cons _
  · rename_i heq
    obtain ⟨rfl, rfl⟩ := Prod.mk.inj heq
    exact leaves_some List.suffix_rfl

theorem extends_startSet (verbose negated : Bool) (hyphens rest : List Char) :
    Extends verbose rest (some (startSet verbose negated (hyphens, rest)))
      (some (startSet verbose negated (hyphens, rest ++ closing))) := by
  cases hyphens with
  | cons hyphen hyphens => exact extends_some ..
  | nil =>
    cases rest with
    | nil => exact extends_some ..
    | cons c rest =>
      by_cases hbracket : c = ']'
      · subst hbracket
        exact (extends_some_skipBlanks _).cons _
      · rw [List.cons_append, startSet.eq_2 _ _ _ _ (by simp [hbracket]),
          startSet.eq_2 _ _ _ _ (by simp [hbracket])]
        exact extends_some ..

theorem leaves_readStart (verbose negated : Bool) (text : List Char) :
    Leaves text (some (readStart verbose negated text)) :=
  .bind (leaves_readRun (· == '-') verbose text.length [] text)
    (f := fun read ↦ some (startSet verbose negated read)) fun _ _ ↦ leaves_startSet ..

theorem extends_readStart (verbose negated : Bool) (text : List Char) :
    Extends verbose text (some (readStart verbose negated text))
      (some (readStart verbose negated (text ++ closing))) :=
  .bind (extends_readRun (by decide) [] le_rfl (length_append_closing _).ge) (leaves_readRun ..)
    (f := fun read ↦ some (startSet verbose negated read))
    (g := fun read ↦ some (startSet verbose negated read)) (fun _ _ ↦ extends_startSet ..)
    fun _ _ ↦ leaves_startSet ..

theorem leaves_readNegation (verbose : Bool) (text : List Char) :
    Leaves text (some (readNegation verbose text)) := by
  unfold readNegation
  split
  · exact ((leaves_readStart ..).of_suffix (skipBlanks_suffix ..)).cons _
  · exact leaves_readStart ..

theorem extends_readNegation (verbose : Bool) (text : List Char) :
    Extends verbose text (some (readNegation verbose text))
      (some (readNegation verbose (text ++ closing))) := by
  cases text with
  | nil => exact extends_readStart verbose false []
  | cons c rest =>
    by_cases hmark : c = '^'
    · subst hmark
      exact .cons (extends_skipBlanks (f := fun left ↦ some (readStart verbose true left))
        (g := fun left ↦ some (readStart verbose true left)) (fun _ _ ↦ extends_readStart ..)
        (leaves_readStart ..)) _
    · rw [readNegation.eq_2 _ _ (by simp [hmark]), readNegation.eq_2 _ _ (by simp [hmark])]
      exact extends_readStart ..

theorem leaves_readOpening (verbose : Bool) (text : List Char) :
    Leaves text (some (readOpening verbose text)) :=
  leaves_skipBlanks (f := fun left ↦ some (readNegation verbose left))
    fun _ _ ↦ leaves_readNegation ..

theorem extends_readOpening (verbose : Bool) (text : List Char) :
    Extends verbose text (some (readOpening verbose text))
      (some (readOpening verbose (text ++ closing))) :=
  extends_skipBlanks (f := fun left ↦ some (readNegation verbose left))
    (g := fun left ↦ some (readNegation verbose left)) (fun _ _ ↦ extends_readNegation ..)
    (leaves_readNegation ..)

/-! ## Classes between colons -/

theorem takeWhile_append_of_dropWhile {p : Char → Bool} {c : Char} {rest : List Char}
    (h : text.dropWhile p = c :: rest) (more : List Char) :
    (text ++ more).takeWhile p = text.takeWhile p := by
  induction text with
  | nil => cases h
  | cons d text ih =>
    rw [List.dropWhile_cons] at h
    rw [List.cons_append, List.takeWhile_cons, List.takeWhile_cons]
    split
    · rename_i hd
      rw [if_pos hd] at h
      rw [ih h]
    · rfl

theorem dropWhile_append_of_cons {p : Char → Bool} {c : Char} {rest : List Char}
    (h : text.dropWhile p = c :: rest) (more : List Char) :
    (text ++ more).dropWhile p = c :: rest ++ more := by
  rw [List.dropWhile_append, h]
  rfl

theorem leaves_closeClass (named : Option SetTree) (text : List Char) :
    Leaves text (closeClass named text) := by
  unfold closeClass
  split
  · exact leaves_map_of_some _ ((List.suffix_cons ..).trans (List.suffix_cons ..))
  · exact leaves_none

theorem closeClass_append (named : Option SetTree) (text : List Char) :
    closeClass named (text ++ closing) = (closeClass named text).map appendClosing := by
  match text with
  | [] => rfl
  | [c] =>
    rw [List.singleton_append, closing, closeClass.eq_2 _ _ (by simp),
      closeClass.eq_2 _ _ (by simp)]
    rfl
  | c :: d :: rest =>
    by_cases h : c = ':' ∧ d = ']'
    · obtain ⟨rfl, rfl⟩ := h
      cases named <;> rfl
    · have hnone (rest : List Char) : closeClass named (c :: d :: rest) = none :=
        closeClass.eq_2 _ _ fun more heq ↦ h (by simp_all)
      rw [List.cons_append, List.cons_append, hnone, hnone]
      rfl

theorem leaves_readClassName (negated : Bool) (text : List Char) :
    Leaves text (readClassName negated text) :=
  (leaves_closeClass ..).of_suffix (List.dropWhile_suffix _)

/-- There is no colon in the closing. -/
theorem readClassName_append (negated : Bool) (text : List Char) :
    readClassName negated (text ++ closing) = (readClassName negated text).map appendClosing := by
  rw [readClassName, readClassName]
  cases hcolon : text.dropWhile (· ≠ ':') with
  | nil =>
    have hnone : (text ++ closing).dropWhile (· ≠ ':') = [] := by
      rw [List.dropWhile_append, hcolon]
      rfl
    rw [hnone]
    rfl
  | cons c rest =>
    rw [dropWhile_append_of_cons hcolon, takeWhile_append_of_dropWhile hcolon, closeClass_append]

theorem leaves_readNegatedClass (text : List Char) : Leaves text (readNegatedClass text) := by
  unfold readNegatedClass
  split
  · exact (leaves_readClassName ..).cons _
  · exact leaves_readClassName ..

theorem readNegatedClass_append (text : List Char) :
    readNegatedClass (text ++ closing) = (readNegatedClass text).map appendClosing := by
  cases text with
  | nil => exact readClassName_append false []
  | cons c rest =>
    by_cases hmark : c = '^'
    · subst hmark
      exact readClassName_append true rest
    · rw [readNegatedClass.eq_2 _ (by simp [hmark]), readNegatedClass.eq_2 _ (by simp [hmark]),
        readClassName_append]

theorem leaves_readNamedClass (text : List Char) : Leaves text (readNamedClass text) := by
  unfold readNamedClass
  split
  · exact (leaves_readNegatedClass ..).cons _
  · exact leaves_none

theorem readNamedClass_append (text : List Char) :
    readNamedClass (text ++ closing) = (readNamedClass text).map appendClosing := by
  cases text with
  | nil => rfl
  | cons c rest =>
    by_cases hcolon : c = ':'
    · subst hcolon
      exact readNegatedClass_append rest
    · rw [readNamedClass.eq_2 _ (by simp [hcolon]), readNamedClass.eq_2 _ (by simp [hcolon])]
      rfl

/-! ## Items and ranges -/

theorem leaves_tail_readSetItem (verbose : Bool) (text : List Char) :
    Leaves text.tail (readSetItem verbose text) := by
  unfold readSetItem
  split
  · exact leaves_none
  · refine .bind (leaves_readEscape ..) fun escape rest ↦ ?_
    exact leaves_map_of_some _ List.suffix_rfl
  · exact leaves_some List.suffix_rfl

theorem leaves_readSetItem (verbose : Bool) (text : List Char) :
    Leaves text (readSetItem verbose text) :=
  (leaves_tail_readSetItem ..).of_suffix (List.tail_suffix _)

theorem extends_readSetItem (verbose : Bool) (text : List Char) :
    Extends verbose text (readSetItem verbose text) (readSetItem verbose (text ++ closing)) := by
  cases text with
  | nil => exact extends_of_leaves (leaves_some List.suffix_rfl)
  | cons c rest =>
    by_cases hescape : c = '\\'
    · subst hescape
      refine .cons (.bind (extends_readEscape ..) (leaves_readEscape ..) (fun escape rest ↦ ?_)
        fun escape rest ↦ ?_) _
      · exact extends_map_of_some _ _ fun _ ↦ extends_some ..
      · exact leaves_map_of_some _ List.suffix_rfl
    · rw [List.cons_append, readSetItem.eq_3 _ _ _ (by simp [hescape]),
        readSetItem.eq_3 _ _ _ (by simp [hescape])]
      exact extends_some ..

theorem skipCommentMark_append (text : List Char) :
    skipCommentMark (text ++ closing) = skipCommentMark text ++ closing := by
  cases text with
  | nil => rfl
  | cons c rest =>
    by_cases hsign : c = '#'
    · subst hsign
      exact dropWhile_append_closing (by decide) rest
    · rw [skipCommentMark.eq_2 _ (by simp [hsign]), skipCommentMark.eq_2 _ (by simp [hsign])]

theorem peek_append (verbose : Bool) (text : List Char) :
    peek verbose (text ++ closing) = peek verbose text ++ closing := by
  rw [peek, peek, dropWhile_append_closing (by decide), skipCommentMark_append]
  split <;> rfl

/-- The closing does not make a hyphen stand for itself. -/
theorem isPlainHyphen_append (verbose : Bool) (text : List Char) :
    isPlainHyphen verbose (text ++ closing) = isPlainHyphen verbose text := by
  rw [isPlainHyphen, isPlainHyphen, peek_append]
  cases peek verbose text <;> rfl

theorem leaves_readRangeEnd (verbose : Bool) (first : SetTree) (text : List Char) :
    Leaves text (readRangeEnd verbose first text) := by
  unfold readRangeEnd
  split
  · split
    · exact leaves_some List.suffix_rfl
    · refine .cons (.of_suffix (.bind (leaves_readSetItem ..) fun last rest ↦ ?_)
        (skipBlanks_suffix ..)) _
      exact leaves_map_of_some _ List.suffix_rfl
  · exact leaves_some List.suffix_rfl

theorem extends_readRangeEnd (verbose : Bool) (first : SetTree) (text : List Char) :
    Extends verbose text (readRangeEnd verbose first text)
      (readRangeEnd verbose first (text ++ closing)) := by
  have hrest (last : SetTree) (rest : List Char) :
      Leaves rest ((first.rangeTo? last).map fun range ↦ (range, rest)) :=
    leaves_map_of_some _ List.suffix_rfl
  cases text with
  | nil => exact extends_some ..
  | cons c rest =>
    by_cases hhyphen : c = '-'
    · subst hhyphen
      rw [List.cons_append, readRangeEnd, readRangeEnd, isPlainHyphen_append]
      split
      · exact extends_some ..
      · refine .cons (extends_skipBlanks (f := fun left ↦ (readSetItem verbose left).bind _)
          (g := fun left ↦ (readSetItem verbose left).bind _) (fun left _ ↦ ?_)
          (.bind (leaves_readSetItem ..) hrest)) _
        exact .bind (extends_readSetItem ..) (leaves_readSetItem ..)
          (fun last rest ↦ extends_map_of_some _ _ fun _ ↦ extends_some ..) hrest
    · rw [List.cons_append, readRangeEnd.eq_2 _ _ _ (by simp [hhyphen]),
        readRangeEnd.eq_2 _ _ _ (by simp [hhyphen])]
      exact extends_some ..

theorem leaves_tail_readSetRange (verbose : Bool) (text : List Char) :
    Leaves text.tail (readSetRange verbose text) :=
  .bind (leaves_tail_readSetItem ..) fun first _ ↦
    leaves_skipBlanks (f := readRangeEnd verbose first) fun _ _ ↦ leaves_readRangeEnd ..

theorem extends_readSetRange (verbose : Bool) (text : List Char) :
    Extends verbose text (readSetRange verbose text) (readSetRange verbose (text ++ closing)) :=
  .bind (extends_readSetItem ..) (leaves_readSetItem ..)
    (fun first _ ↦ extends_skipBlanks (f := readRangeEnd verbose first)
      (g := readRangeEnd verbose first) (fun _ _ ↦ extends_readRangeEnd ..)
      (leaves_readRangeEnd ..))
    fun first _ ↦ leaves_skipBlanks (f := readRangeEnd verbose first)
      fun _ _ ↦ leaves_readRangeEnd ..

/-! ## Turns -/

theorem leaves_tail_readOperation? (text : List Char) :
    Leaves text.tail (readOperation? text) := by
  unfold readOperation?
  split
  · split
    · exact leaves_map_of_some _ (List.suffix_cons ..)
    · exact leaves_none
  · exact leaves_none

/-- The closing does not make an operation of one character. -/
theorem readOperation?_append (text : List Char) :
    readOperation? (text ++ closing) = (readOperation? text).map appendClosing := by
  match text with
  | [] => rfl
  | [c] =>
    rw [List.singleton_append, closing, readOperation?]
    split
    · rename_i hc
      subst hc
      rfl
    · rfl
  | c :: d :: rest =>
    rw [List.cons_append, List.cons_append, readOperation?, readOperation?]
    split
    · cases operationOf? c <;> rfl
    · rfl

theorem SetState.leaves_tail_itemTurn (state : SetState) (verbose : Bool) (text : List Char) :
    Leaves text.tail (state.itemTurn verbose text) := by
  unfold itemTurn
  split
  · rename_i hoperation
    exact leaves_some ((leaves_tail_readOperation? ..).suffix _ _ hoperation)
  · exact .bind (leaves_tail_readSetRange ..) fun _ _ ↦ leaves_some List.suffix_rfl

theorem SetState.extends_itemTurn (state : SetState) (verbose : Bool) (text : List Char) :
    Extends verbose text (state.itemTurn verbose text)
      (state.itemTurn verbose (text ++ closing)) := by
  rw [itemTurn, itemTurn, readOperation?_append]
  cases readOperation? text with
  | some read => exact extends_some ..
  | none =>
    exact .bind (extends_readSetRange ..)
      ((leaves_tail_readSetRange ..).of_suffix (List.tail_suffix _)) (fun _ _ ↦ extends_some ..)
      fun _ _ ↦ leaves_some List.suffix_rfl

theorem SetState.leaves_bracketTurn (state : SetState) (verbose : Bool) (text : List Char) :
    Leaves text (some (state.bracketTurn verbose text)) := by
  unfold bracketTurn
  split
  · rename_i hnamed
    exact leaves_some ((leaves_readNamedClass ..).suffix _ _ hnamed)
  · exact leaves_some ((leaves_readOpening ..).suffix _ _ rfl)

theorem SetState.extends_bracketTurn (state : SetState) (verbose : Bool) (text : List Char) :
    Extends verbose text (some (state.bracketTurn verbose text))
      (some (state.bracketTurn verbose (text ++ closing))) := by
  rw [bracketTurn, bracketTurn, readNamedClass_append]
  cases readNamedClass text with
  | some read => exact extends_some ..
  | none =>
    exact .bind (extends_readOpening ..) (leaves_readOpening ..)
      (f := fun read ↦ some (state.openInner read.1.1 read.1.2, read.2))
      (g := fun read ↦ some (state.openInner read.1.1 read.1.2, read.2))
      (fun _ _ ↦ extends_some ..) fun _ _ ↦ leaves_some List.suffix_rfl

theorem SetState.leaves_tail_turn (state : SetState) (verbose : Bool) (text : List Char) :
    Leaves text.tail (state.turn verbose text) := by
  unfold turn
  split
  · exact leaves_some ((leaves_bracketTurn ..).suffix _ _ rfl)
  · exact leaves_some List.suffix_rfl
  · exact leaves_tail_itemTurn ..

theorem SetState.extends_turn (state : SetState) (verbose : Bool) (text : List Char) :
    Extends verbose text (state.turn verbose text) (state.turn verbose (text ++ closing)) := by
  cases text with
  | nil => exact state.extends_itemTurn verbose []
  | cons c rest =>
    by_cases hopening : c = '['
    · subst hopening
      exact .cons (.bind (state.extends_bracketTurn ..) (state.leaves_bracketTurn ..)
        (f := fun read ↦ some ((.inl read.1 : SetState ⊕ Tree), read.2))
        (g := fun read ↦ some (.inl read.1, read.2)) (fun _ _ ↦ extends_some ..)
        fun _ _ ↦ leaves_some List.suffix_rfl) _
    · by_cases hclosing : c = ']'
      · subst hclosing
        exact (extends_some ..).cons _
      · rw [turn.eq_3 _ _ _ (by simp [hopening]) (by simp [hclosing]),
          turn.eq_3 _ _ _ (by simp [hopening]) (by simp [hclosing])]
        exact state.extends_itemTurn ..

/-! ## Sets -/

theorem leaves_readSet (verbose : Bool) (fuel : Nat) (state : SetState) (text : List Char) :
    Leaves text (readSet verbose fuel state text) := by
  induction fuel generalizing state text with
  | zero => exact leaves_none
  | succ fuel ih =>
    refine .of_suffix (.bind (state.leaves_tail_turn ..) ?_)
      ((List.tail_suffix _).trans (skipBlanks_suffix verbose text))
    rintro (next | set) rest
    · exact ih next rest
    · exact leaves_some List.suffix_rfl

theorem extends_readSet {fuel bound : Nat} (state : SetState) (hfuel : text.length < fuel)
    (hbound : text.length + 2 < bound) :
    Extends verbose text (readSet verbose fuel state text)
      (readSet verbose bound state (text ++ closing)) := by
  induction fuel generalizing bound state text with
  | zero => cases hfuel
  | succ fuel ih =>
    obtain ⟨bound, rfl⟩ := Nat.exists_eq_succ_of_ne_zero (by omega : bound ≠ 0)
    refine extends_skipBlanks (f := fun left ↦ (state.turn verbose left).bind _)
      (g := fun left ↦ (state.turn verbose left).bind _) (fun left hleft ↦ ?_)
      (.of_suffix (.bind (state.leaves_tail_turn ..) ?_) (List.tail_suffix _))
    · refine .bind_of_eq (state.extends_turn ..)
        ((state.leaves_tail_turn ..).of_suffix (List.tail_suffix _)) ?_ ?_
      · rintro (next | set) rest hturn
        · have hlength := hleft.length_le
          have hshorter : rest.length + 1 ≤ left.length := by
            cases left with
            | nil => cases hturn
            | cons c left =>
              exact Nat.succ_le_succ ((state.leaves_tail_turn ..).suffix _ _ hturn).length_le
          exact ih next (by omega) (by omega)
        · exact extends_some ..
      · rintro (next | set) rest
        · exact leaves_readSet ..
        · exact leaves_some List.suffix_rfl
    · rintro (next | set) rest
      · exact leaves_readSet ..
      · exact leaves_some List.suffix_rfl

theorem leaves_readBrackets (verbose : Bool) (text : List Char) :
    Leaves text (readBrackets verbose text) :=
  (leaves_readSet ..).of_suffix ((leaves_readOpening verbose text).suffix _ _ rfl)

theorem extends_readBrackets (verbose : Bool) (text : List Char) :
    Extends verbose text (readBrackets verbose text) (readBrackets verbose (text ++ closing)) := by
  refine .bind (extends_readOpening ..) (leaves_readOpening ..)
    (f := fun (read : (Bool × List SetTree) × List Char) ↦
      readSet verbose (read.2.length + 1) ⟨read.1.2, none, read.1.1, []⟩ read.2)
    (g := fun (read : (Bool × List SetTree) × List Char) ↦
      readSet verbose (read.2.length + 1) ⟨read.1.2, none, read.1.1, []⟩ read.2) (fun _ rest ↦ ?_)
    fun _ _ ↦ leaves_readSet ..
  refine extends_readSet _ (Nat.lt_succ_self _) ?_
  rw [length_append_closing]
  exact Nat.lt_succ_self _

end DocumentSchema.Pattern
