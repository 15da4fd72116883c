import DocumentSchema.Pattern.Brackets
import Mathlib.Data.List.Infix

/-!
# What readers look at

A pattern that is to match whole texts is put in a group, so a closing parenthesis and the mark of
the end come after it. For every reader of a part of a pattern there are two things to know. It
leaves a suffix of its text (`Leaves`). And it does not care about the closing: what it answers to a
text with the closing after it is what it answers to the text alone, with the closing left over
(`Extends`).

There are two ways in which a reader goes on into the closing. It may want more than the text has,
as after a backslash at the end; then the text alone is refused. Or it may be in a comment of
verbose mode that is not ended, which takes everything that follows. In both cases the parenthesis
is gone afterwards, so that nothing is left that could close the group.

Readers that go on in turns are given fuel by the length of their text, and a text with the closing
has more of it. So what is proved of them is about two amounts of fuel, each enough for its text.
-/

namespace DocumentSchema.Pattern

variable {α β : Type} {verbose : Bool} {text more : List Char}

/-- What comes after a pattern that is to match whole texts. -/
def closing : List Char := [')', '$']

/-! ## Suffixes -/

/-- What is left, if anything was read, is a suffix of the text. -/
structure Leaves (text : List Char) (answer : Option (α × List Char)) : Prop where
  suffix : ∀ x rest, answer = some (x, rest) → rest <:+ text

theorem leaves_none : Leaves text (none : Option (α × List Char)) := ⟨nofun⟩

theorem leaves_some {x : α} {rest : List Char} (h : rest <:+ text) :
    Leaves text (some (x, rest)) := by
  refine ⟨?_⟩
  rintro _ _ ⟨⟩
  exact h

theorem Leaves.of_suffix {answer : Option (α × List Char)} (h : Leaves text answer)
    (hmore : text <:+ more) : Leaves more answer :=
  ⟨fun x rest hanswer ↦ (h.suffix x rest hanswer).trans hmore⟩

theorem Leaves.cons {answer : Option (α × List Char)} (h : Leaves text answer) (c : Char) :
    Leaves (c :: text) answer :=
  h.of_suffix (List.suffix_cons ..)

theorem Leaves.bind {answer : Option (α × List Char)} (h : Leaves text answer)
    {f : α × List Char → Option (β × List Char)} (hf : ∀ x rest, Leaves rest (f (x, rest))) :
    Leaves text (answer.bind f) := by
  refine ⟨fun y rest hanswer ↦ ?_⟩
  obtain ⟨⟨x, left⟩, hx, hy⟩ := Option.bind_eq_some_iff.mp hanswer
  exact ((hf x left).suffix y rest hy).trans (h.suffix x left hx)

/-! ## Extensions -/

/-- What is read is the same, with the closing left over. -/
def appendClosing : α × List Char → α × List Char := fun (x, rest) ↦ (x, rest ++ closing)

/-- What a reader answers to a text, and what it answers to the text with the closing after it. The
closing comes after what is left, or the parenthesis is gone; that is so only if the text alone is
refused or has the sign of a comment in it. -/
def Extends (verbose : Bool) (text : List Char) (alone extended : Option (α × List Char)) : Prop :=
  extended = alone.map appendClosing ∨
    (alone = none ∨ verbose = true ∧ '#' ∈ text) ∧ Leaves ['$'] extended

theorem extends_none : Extends verbose text (none : Option (α × List Char)) none := .inl rfl

theorem extends_some (x : α) (rest : List Char) :
    Extends verbose text (some (x, rest)) (some (x, rest ++ closing)) := .inl rfl

theorem extends_of_leaves {extended : Option (α × List Char)} (h : Leaves ['$'] extended) :
    Extends verbose text none extended := .inr ⟨.inl rfl, h⟩

theorem Extends.of_suffix {alone extended : Option (α × List Char)}
    (h : Extends verbose text alone extended) (hmore : text <:+ more) :
    Extends verbose more alone extended :=
  h.imp_right (And.imp_left (Or.imp_right (And.imp_right (hmore.mem ·))))

theorem Extends.cons {alone extended : Option (α × List Char)}
    (h : Extends verbose text alone extended) (c : Char) :
    Extends verbose (c :: text) alone extended :=
  h.of_suffix (List.suffix_cons ..)

theorem Extends.bind_of_eq {alone extended : Option (α × List Char)}
    (h : Extends verbose text alone extended) (hleaves : Leaves text alone)
    {f g : α × List Char → Option (β × List Char)}
    (hf : ∀ x rest, alone = some (x, rest) →
      Extends verbose rest (f (x, rest)) (g (x, rest ++ closing)))
    (hg : ∀ x rest, Leaves rest (g (x, rest))) :
    Extends verbose text (alone.bind f) (extended.bind g) := by
  rcases h with rfl | ⟨hread, hshort⟩
  · cases alone with
    | none => exact extends_none
    | some read => exact (hf read.1 read.2 rfl).of_suffix (hleaves.suffix read.1 read.2 rfl)
  · exact .inr ⟨hread.imp_left (fun hnone ↦ by rw [hnone]; rfl), hshort.bind hg⟩

theorem Extends.bind {alone extended : Option (α × List Char)}
    (h : Extends verbose text alone extended) (hleaves : Leaves text alone)
    {f g : α × List Char → Option (β × List Char)}
    (hf : ∀ x rest, Extends verbose rest (f (x, rest)) (g (x, rest ++ closing)))
    (hg : ∀ x rest, Leaves rest (g (x, rest))) :
    Extends verbose text (alone.bind f) (extended.bind g) :=
  h.bind_of_eq hleaves (fun x rest _ ↦ hf x rest) hg

/-! ## Blanks -/

theorem skipBlanksFrom_suffix (comment : Bool) (text : List Char) :
    skipBlanksFrom comment text <:+ text := by
  induction text generalizing comment with
  | nil => exact List.suffix_rfl
  | cons c rest ih =>
    rw [skipBlanksFrom]
    split
    · exact (ih _).trans (List.suffix_cons ..)
    · split
      · exact (ih _).trans (List.suffix_cons ..)
      · split
        · exact (ih _).trans (List.suffix_cons ..)
        · exact List.suffix_rfl

theorem skipBlanks_suffix (verbose : Bool) (text : List Char) :
    skipBlanks verbose text <:+ text := by
  rw [skipBlanks]
  split
  · exact skipBlanksFrom_suffix ..
  · exact List.suffix_rfl

theorem skipBlanksFrom_append (comment : Bool) (text : List Char) :
    skipBlanksFrom comment (text ++ closing) = skipBlanksFrom comment text ++ closing ∨
      (comment = true ∨ '#' ∈ text) ∧ skipBlanksFrom comment text = [] ∧
        skipBlanksFrom comment (text ++ closing) = [] := by
  induction text generalizing comment with
  | nil =>
    cases comment with
    | true => exact .inr ⟨.inl rfl, rfl, rfl⟩
    | false => exact .inl rfl
  | cons c rest ih =>
    rw [List.cons_append, skipBlanksFrom, skipBlanksFrom]
    split
    · rename_i hcomment
      exact (ih _).imp_right (And.imp_left fun _ ↦ .inl hcomment)
    · split
      · exact (ih false).imp_right (And.imp_left fun h ↦
          .inr (List.mem_cons_of_mem _ (h.resolve_left Bool.false_ne_true)))
      · split
        · rename_i hsign
          exact (ih true).imp_right (And.imp_left fun _ ↦ .inr (hsign ▸ List.mem_cons_self))
        · exact .inl rfl

/-- Blanks are skipped as before, unless a comment takes all that is left. -/
theorem skipBlanks_append (verbose : Bool) (text : List Char) :
    skipBlanks verbose (text ++ closing) = skipBlanks verbose text ++ closing ∨
      (verbose = true ∧ '#' ∈ text) ∧ skipBlanks verbose text = [] ∧
        skipBlanks verbose (text ++ closing) = [] := by
  cases verbose with
  | false => exact .inl rfl
  | true =>
    exact (skipBlanksFrom_append false text).imp_right
      (And.imp_left fun h ↦ ⟨rfl, h.resolve_left Bool.false_ne_true⟩)

theorem extends_skipBlanks {f g : List Char → Option (α × List Char)}
    (h : ∀ rest, rest <:+ text → Extends verbose rest (f rest) (g (rest ++ closing)))
    (hnil : Leaves [] (g [])) :
    Extends verbose text (f (skipBlanks verbose text))
      (g (skipBlanks verbose (text ++ closing))) := by
  rcases skipBlanks_append verbose text with hblanks | ⟨hcomment, -, hnone⟩
  · rw [hblanks]
    exact (h _ (skipBlanks_suffix ..)).of_suffix (skipBlanks_suffix ..)
  · rw [hnone]
    exact .inr ⟨.inr hcomment, hnil.of_suffix (List.nil_suffix)⟩

theorem leaves_skipBlanks {f : List Char → Option (α × List Char)}
    (h : ∀ rest, rest <:+ text → Leaves rest (f rest)) :
    Leaves text (f (skipBlanks verbose text)) :=
  (h _ (skipBlanks_suffix ..)).of_suffix (skipBlanks_suffix ..)

theorem dropWhile_append_closing {p : Char → Bool} (h : p ')' = false) (text : List Char) :
    (text ++ closing).dropWhile p = text.dropWhile p ++ closing := by
  induction text with
  | nil => exact List.dropWhile_cons_of_neg (by simp [h])
  | cons c rest ih =>
    rw [List.cons_append, List.dropWhile_cons, List.dropWhile_cons, ih]
    split <;> rfl

/-! ## Numbers -/

theorem leaves_readRun (kind : Char → Bool) (verbose : Bool) (fuel : Nat) (done text : List Char) :
    Leaves text (some (readRun kind verbose fuel done text)) := by
  induction fuel generalizing done text with
  | zero => exact leaves_some List.suffix_rfl
  | succ fuel ih =>
    cases text with
    | nil => exact leaves_some List.suffix_rfl
    | cons c rest =>
      rw [readRun]
      split
      · exact ((ih _ _).of_suffix (skipBlanks_suffix ..)).cons c
      · exact leaves_some List.suffix_rfl

theorem readRun_closing {kind : Char → Bool} (hkind : kind ')' = false) (verbose : Bool)
    (fuel : Nat) (done : List Char) :
    readRun kind verbose fuel done closing = (done.reverse, closing) := by
  cases fuel with
  | zero => rfl
  | succ fuel =>
    rw [closing, readRun, hkind]
    rfl

theorem extends_readRun {kind : Char → Bool} (hkind : kind ')' = false) {fuel bound : Nat}
    (done : List Char) (hfuel : text.length ≤ fuel) (hbound : text.length + 2 ≤ bound) :
    Extends verbose text (some (readRun kind verbose fuel done text))
      (some (readRun kind verbose bound done (text ++ closing))) := by
  induction fuel generalizing bound done text with
  | zero =>
    obtain rfl := List.eq_nil_of_length_eq_zero (Nat.le_zero.mp hfuel)
    rw [List.nil_append, readRun_closing hkind]
    exact extends_some ..
  | succ fuel ih =>
    cases text with
    | nil =>
      rw [List.nil_append, readRun_closing hkind]
      exact extends_some ..
    | cons c rest =>
      obtain ⟨bound, rfl⟩ := Nat.exists_eq_succ_of_ne_zero (by omega : bound ≠ 0)
      rw [List.cons_append, readRun, readRun]
      rw [List.length_cons] at hfuel hbound
      split
      · refine .cons (extends_skipBlanks (f := fun left ↦ some (readRun kind verbose fuel _ left))
          (g := fun left ↦ some (readRun kind verbose bound _ left)) (fun left hleft ↦ ?_)
          (leaves_readRun ..)) c
        have hlength := hleft.length_le
        exact ih _ (by omega) (by omega)
      · exact extends_some ..

theorem some_readBound (verbose : Bool) (text : List Char) :
    some (readBound verbose text) =
      (some (readRun Char.isDigit verbose (text.dropWhile isBlank).length []
        (text.dropWhile isBlank))).bind fun (digits, rest) ↦
          (some (readRun isBlank verbose rest.length [] rest)).bind fun (_, rest) ↦
            some (boundOf? digits, rest) := rfl

theorem leaves_readBound (verbose : Bool) (text : List Char) :
    Leaves text (some (readBound verbose text)) := by
  rw [some_readBound]
  refine .of_suffix (.bind (leaves_readRun ..) fun digits rest ↦ ?_) (List.dropWhile_suffix _)
  exact .bind (leaves_readRun ..) fun _ rest ↦ leaves_some List.suffix_rfl

theorem length_append_closing (text : List Char) :
    (text ++ closing).length = text.length + 2 := List.length_append

theorem extends_readBound (verbose : Bool) (text : List Char) :
    Extends verbose text (some (readBound verbose text))
      (some (readBound verbose (text ++ closing))) := by
  rw [some_readBound, some_readBound, dropWhile_append_closing (by decide)]
  refine .of_suffix (.bind (extends_readRun (by decide) [] le_rfl (length_append_closing _).ge)
    (leaves_readRun ..) (fun digits rest ↦ ?_) fun digits rest ↦ ?_) (List.dropWhile_suffix _)
  · refine .bind (extends_readRun (by decide) [] le_rfl (length_append_closing _).ge)
      (leaves_readRun ..) (fun _ rest ↦ ?_) fun _ rest ↦ ?_
    · exact extends_some ..
    · exact leaves_some List.suffix_rfl
  · exact .bind (leaves_readRun ..) fun _ rest ↦ leaves_some List.suffix_rfl

/-! ## Code points -/

theorem leaves_readFixedHex (verbose : Bool) (count : Nat) (done text : List Char) :
    Leaves text (readFixedHex verbose count done text) := by
  induction count generalizing done text with
  | zero => exact leaves_some List.suffix_rfl
  | succ count ih =>
    cases text with
    | nil => exact leaves_none
    | cons c rest =>
      rw [readFixedHex]
      split
      · exact ((ih _ _).of_suffix (skipBlanks_suffix ..)).cons c
      · exact leaves_none

theorem extends_readFixedHex (verbose : Bool) (count : Nat) (done text : List Char) :
    Extends verbose text (readFixedHex verbose count done text)
      (readFixedHex verbose count done (text ++ closing)) := by
  induction count generalizing done text with
  | zero => exact extends_some ..
  | succ count ih =>
    cases text with
    | nil => exact extends_none
    | cons c rest =>
      rw [List.cons_append, readFixedHex, readFixedHex]
      split
      · exact .cons (extends_skipBlanks (fun left _ ↦ ih _ left) (leaves_readFixedHex ..)) c
      · exact extends_none

theorem leaves_readBraced (verbose : Bool) (fuel : Nat) (done text : List Char) :
    Leaves text (readBraced verbose fuel done text) := by
  induction fuel generalizing done text with
  | zero => exact leaves_none
  | succ fuel ih =>
    cases text with
    | nil => exact leaves_none
    | cons c rest =>
      rw [readBraced]
      split
      · exact leaves_some (List.suffix_cons ..)
      · exact ((ih _ _).of_suffix (skipBlanks_suffix ..)).cons c

/-- A parenthesis is no brace. -/
theorem leaves_readBraced_closing (verbose : Bool) (fuel : Nat) (done : List Char) :
    Leaves ['$'] (readBraced verbose fuel done closing) := by
  cases fuel with
  | zero => exact leaves_none
  | succ fuel =>
    have hstep : readBraced verbose (fuel + 1) done closing =
        readBraced verbose fuel (')' :: done) (skipBlanks verbose ['$']) := rfl
    rw [hstep]
    exact (leaves_readBraced ..).of_suffix (skipBlanks_suffix ..)

theorem extends_readBraced {fuel bound : Nat} (done : List Char) (hfuel : text.length ≤ fuel)
    (hbound : text.length + 2 ≤ bound) :
    Extends verbose text (readBraced verbose fuel done text)
      (readBraced verbose bound done (text ++ closing)) := by
  induction fuel generalizing bound done text with
  | zero =>
    obtain rfl := List.eq_nil_of_length_eq_zero (Nat.le_zero.mp hfuel)
    exact extends_of_leaves (leaves_readBraced_closing ..)
  | succ fuel ih =>
    cases text with
    | nil => exact extends_of_leaves (leaves_readBraced_closing ..)
    | cons c rest =>
      obtain ⟨bound, rfl⟩ := Nat.exists_eq_succ_of_ne_zero (by omega : bound ≠ 0)
      rw [List.cons_append, readBraced, readBraced]
      rw [List.length_cons] at hfuel hbound
      split
      · exact (extends_some ..).cons c
      · refine .cons (extends_skipBlanks (fun left hleft ↦ ?_) (leaves_readBraced ..)) c
        have hlength := hleft.length_le
        exact ih _ (by omega) (by omega)

theorem leaves_some_skipBlanks (x : α) : Leaves text (some (x, skipBlanks verbose text)) :=
  leaves_some (skipBlanks_suffix ..)

theorem extends_some_skipBlanks (x : α) :
    Extends verbose text (some (x, skipBlanks verbose text))
      (some (x, skipBlanks verbose (text ++ closing))) :=
  extends_skipBlanks (f := fun left ↦ some (x, left)) (g := fun left ↦ some (x, left))
    (fun _ _ ↦ extends_some ..) (leaves_some List.suffix_rfl)

theorem leaves_map_of_some {x : Option α} {rest : List Char} (f : α → β) (h : rest <:+ text) :
    Leaves text (x.map fun y ↦ (f y, rest)) := by
  cases x with
  | none => exact leaves_none
  | some y => exact leaves_some h

theorem extends_map_of_some {left last : List Char} (x : Option α) (f : α → β)
    (h : ∀ y : β, Extends verbose text (some (y, left)) (some (y, last))) :
    Extends verbose text (x.map fun y ↦ (f y, left)) (x.map fun y ↦ (f y, last)) := by
  cases x with
  | none => exact extends_none
  | some y => exact h (f y)

theorem leaves_readHexDigits (verbose : Bool) (count : Nat) (text : List Char) :
    Leaves text (readHexDigits verbose count text) := by
  unfold readHexDigits
  split
  · refine .cons (.of_suffix (.bind (leaves_readBraced ..) fun digits rest ↦ ?_)
      (skipBlanks_suffix ..)) _
    exact leaves_map_of_some _ (skipBlanks_suffix ..)
  · exact .bind (leaves_readFixedHex ..) fun digits rest ↦ leaves_map_of_some _ List.suffix_rfl

/-- A text read up to a closing brace, after blanks. -/
theorem extends_braced {next last : List Char × List Char → Option (β × List Char)}
    (hnext : ∀ name rest, Extends verbose rest (next (name, rest)) (last (name, rest ++ closing)))
    (hlast : ∀ name rest, Leaves rest (last (name, rest))) :
    Extends verbose text
      ((readBraced verbose (skipBlanks verbose text).length [] (skipBlanks verbose text)).bind next)
      ((readBraced verbose (skipBlanks verbose (text ++ closing)).length []
        (skipBlanks verbose (text ++ closing))).bind last) := by
  refine extends_skipBlanks (f := fun left ↦ (readBraced verbose left.length [] left).bind next)
    (g := fun left ↦ (readBraced verbose left.length [] left).bind last) (fun left _ ↦ ?_)
    (.bind (leaves_readBraced ..) hlast)
  refine .bind (extends_readBraced [] le_rfl ?_) (leaves_readBraced ..) hnext hlast
  rw [List.length_append]
  rfl

theorem extends_readHexDigits (verbose : Bool) (count : Nat) (text : List Char) :
    Extends verbose text (readHexDigits verbose count text)
      (readHexDigits verbose count (text ++ closing)) := by
  have hfixed : Extends verbose text
      ((readFixedHex verbose count [] text).bind fun (digits, rest) ↦
        (hexChar? digits).map fun char ↦ ((⟨char, count == 2⟩ : Literal), rest))
      ((readFixedHex verbose count [] (text ++ closing)).bind fun (digits, rest) ↦
        (hexChar? digits).map fun char ↦ ((⟨char, count == 2⟩ : Literal), rest)) :=
    .bind (extends_readFixedHex ..) (leaves_readFixedHex ..)
      (fun digits rest ↦ extends_map_of_some _ _ fun _ ↦ extends_some ..)
      fun digits rest ↦ leaves_map_of_some _ List.suffix_rfl
  cases text with
  | nil => exact hfixed
  | cons c rest =>
    by_cases hbrace : c = '\x7b'
    · subst hbrace
      exact (extends_braced (fun digits rest ↦ extends_map_of_some _ _ fun _ ↦
        extends_some_skipBlanks _) fun digits rest ↦
          leaves_map_of_some _ (skipBlanks_suffix ..)).cons _
    · rw [readHexDigits.eq_2 _ _ _ (by simp [hbrace]), readHexDigits.eq_2 _ _ _ (by simp [hbrace])]
      exact hfixed

theorem leaves_readHex (verbose : Bool) (count : Nat) (text : List Char) :
    Leaves text (readHex verbose count text) :=
  leaves_skipBlanks fun _ _ ↦ leaves_readHexDigits ..

theorem extends_readHex (verbose : Bool) (count : Nat) (text : List Char) :
    Extends verbose text (readHex verbose count text) (readHex verbose count (text ++ closing)) :=
  extends_skipBlanks (fun _ _ ↦ extends_readHexDigits ..) (leaves_readHexDigits ..)

/-! ## Properties -/

theorem leaves_readPropertyName (verbose negated : Bool) (text : List Char) :
    Leaves text (readPropertyName verbose negated text) := by
  unfold readPropertyName
  split
  · exact leaves_none
  · refine .cons (.of_suffix (.bind (leaves_readBraced ..) fun name rest ↦ ?_)
      (skipBlanks_suffix ..)) _
    exact leaves_some List.suffix_rfl
  · split
    · exact leaves_none
    · exact (leaves_some_skipBlanks _).cons _

theorem extends_readPropertyName (verbose negated : Bool) (text : List Char) :
    Extends verbose text (readPropertyName verbose negated text)
      (readPropertyName verbose negated (text ++ closing)) := by
  cases text with
  | nil => exact extends_of_leaves (leaves_some (skipBlanks_suffix verbose ['$']))
  | cons c rest =>
    by_cases hbrace : c = '\x7b'
    · subst hbrace
      refine (extends_braced (fun name rest ↦ ?_) fun name rest ↦ ?_).cons _
      · exact extends_some ..
      · exact leaves_some List.suffix_rfl
    · rw [readPropertyName.eq_3 _ _ _ _ (by simp [hbrace]), List.cons_append,
        readPropertyName.eq_3 _ _ _ _ (by simp [hbrace])]
      split
      · exact extends_none
      · exact (extends_some_skipBlanks _).cons _

theorem leaves_readProperty (verbose negated : Bool) (text : List Char) :
    Leaves text (readProperty verbose negated text) :=
  leaves_skipBlanks fun _ _ ↦ leaves_readPropertyName ..

theorem extends_readProperty (verbose negated : Bool) (text : List Char) :
    Extends verbose text (readProperty verbose negated text)
      (readProperty verbose negated (text ++ closing)) :=
  extends_skipBlanks (fun _ _ ↦ extends_readPropertyName ..) (leaves_readPropertyName ..)

/-! ## Word boundaries -/

theorem leaves_closeBoundary (name rest : List Char) :
    Leaves rest (closeBoundary (name, rest)) := by
  unfold closeBoundary
  split
  · rename_i heq
    obtain ⟨rfl, rfl⟩ := Prod.mk.inj heq
    exact leaves_map_of_some _ (List.suffix_cons ..)
  · exact leaves_none

theorem extends_closeBoundary (name rest : List Char) :
    Extends verbose rest (closeBoundary (name, rest)) (closeBoundary (name, rest ++ closing)) := by
  cases rest with
  | nil => exact extends_none
  | cons c rest =>
    by_cases hbrace : c = '\x7d'
    · subst hbrace
      exact (extends_map_of_some _ _ fun _ ↦ extends_some ..).cons _
    · rw [List.cons_append, closeBoundary.eq_2 _ (by simp [hbrace]),
        closeBoundary.eq_2 _ (by simp [hbrace])]
      exact extends_none

theorem leaves_readBoundaryName (verbose : Bool) (text : List Char) :
    Leaves text (readBoundaryName verbose text) :=
  .bind (leaves_readRun isBoundaryLetter verbose text.length [] text) leaves_closeBoundary

theorem extends_readBoundaryName (verbose : Bool) (text : List Char) :
    Extends verbose text (readBoundaryName verbose text)
      (readBoundaryName verbose (text ++ closing)) :=
  .bind (extends_readRun (by decide) [] le_rfl (length_append_closing _).ge) (leaves_readRun ..)
    extends_closeBoundary leaves_closeBoundary

/-- The closing begins no name. -/
theorem any_head?_skipBlanks_append {p : Char → Bool} (h : p ')' = false) (verbose : Bool)
    (text : List Char) : (skipBlanks verbose (text ++ closing)).head?.any p =
      (skipBlanks verbose text).head?.any p := by
  rcases skipBlanks_append verbose text with hblanks | ⟨-, hnone, hextended⟩
  · rw [hblanks]
    cases skipBlanks verbose text with
    | nil => exact h
    | cons c rest => rfl
  · rw [hnone, hextended]

theorem leaves_readBoundary (verbose : Bool) (text : List Char) :
    Leaves text (readBoundary verbose text) := by
  unfold readBoundary
  split
  · split
    · exact ((leaves_readBoundaryName ..).of_suffix (skipBlanks_suffix ..)).cons _
    · exact leaves_some List.suffix_rfl
  · exact leaves_some List.suffix_rfl

theorem extends_readBoundary (verbose : Bool) (text : List Char) :
    Extends verbose text (readBoundary verbose text) (readBoundary verbose (text ++ closing)) := by
  cases text with
  | nil => exact extends_some ..
  | cons c rest =>
    by_cases hbrace : c = '\x7b'
    · subst hbrace
      rw [List.cons_append, readBoundary, readBoundary, any_head?_skipBlanks_append (by decide)]
      split
      · exact .cons (extends_skipBlanks (fun _ _ ↦ extends_readBoundaryName ..)
          (leaves_readBoundaryName ..)) _
      · exact extends_some ..
    · rw [List.cons_append, readBoundary.eq_2 _ _ (by simp [hbrace]),
        readBoundary.eq_2 _ _ (by simp [hbrace])]
      exact extends_some ..

/-! ## Escapes -/

theorem EscapeForm.leaves_read (form : EscapeForm) (verbose : Bool) (text : List Char) :
    Leaves text (form.read verbose text) := by
  cases form with
  | single escape => exact leaves_some List.suffix_rfl
  | hex count => exact .bind (leaves_readHex ..) fun _ _ ↦ leaves_some List.suffix_rfl
  | property negated => exact .bind (leaves_readProperty ..) fun _ _ ↦ leaves_some List.suffix_rfl
  | boundary => exact .bind (leaves_readBoundary ..) fun _ _ ↦ leaves_some List.suffix_rfl

theorem EscapeForm.extends_read (form : EscapeForm) (verbose : Bool) (text : List Char) :
    Extends verbose text (form.read verbose text) (form.read verbose (text ++ closing)) := by
  cases form with
  | single escape => exact extends_some ..
  | hex count =>
    exact .bind (extends_readHex ..) (leaves_readHex ..) (fun _ _ ↦ extends_some ..)
      fun _ _ ↦ leaves_some List.suffix_rfl
  | property negated =>
    exact .bind (extends_readProperty ..) (leaves_readProperty ..) (fun _ _ ↦ extends_some ..)
      fun _ _ ↦ leaves_some List.suffix_rfl
  | boundary =>
    exact .bind (extends_readBoundary ..) (leaves_readBoundary ..) (fun _ _ ↦ extends_some ..)
      fun _ _ ↦ leaves_some List.suffix_rfl

theorem leaves_readEscape (verbose : Bool) (text : List Char) :
    Leaves text (readEscape verbose text) := by
  cases text with
  | nil => exact leaves_none
  | cons c rest =>
    rw [readEscape]
    cases escapeForm? c with
    | none => exact leaves_none
    | some form => exact (form.leaves_read ..).cons c

theorem extends_readEscape (verbose : Bool) (text : List Char) :
    Extends verbose text (readEscape verbose text) (readEscape verbose (text ++ closing)) := by
  cases text with
  | nil => exact extends_of_leaves (leaves_some List.suffix_rfl)
  | cons c rest =>
    rw [List.cons_append, readEscape, readEscape]
    cases escapeForm? c with
    | none => exact extends_none
    | some form => exact (form.extends_read ..).cons c

end DocumentSchema.Pattern
