import DocumentSchema.Json.Printer
import DocumentSchema.Json.Reader
import Mathlib.Data.List.TakeWhile

/-!
# Tokens that are read back

The text of a string or a number is one token again, the one it was made from. A string ends at its
closing quote, whatever follows. A number ends where the next character cannot belong to it, so it
is read back only before such a character, and in a document nothing else follows a number.

An integer is read back as itself as long as it is within 64 bits. Whether a float is read back as
itself is a matter of how texts of floats are rounded, of which nothing is said here: it is a
property of the float, `Number.ReadsBack`.
-/

namespace DocumentSchema

namespace JsonToken

/-! ## Strings -/

theorem readString_escapeLetter {done : List Char} {letter c : Char}
    (h : escapeLetter? letter = some c) (hne : letter ≠ 'u') (rest : List Char) :
    readString done none ('\\' :: letter :: rest) = readString (c :: done) none rest := by
  rw [readString, h]
  intro _ _ _ _ _ hletter
  exact absurd hletter hne

theorem readString_plain (done : List Char) {c : Char} (hquote : c ≠ '"') (hslash : c ≠ '\\')
    (hlow : 32 ≤ c.toNat) (rest : List Char) :
    readString done none (c :: rest) = readString (c :: done) none rest := by
  rw [readString, if_neg]
  · simp [hslash, Nat.not_lt.mpr hlow]
  · exact hquote
  · intro _ _ _ _ _ hc
    exact absurd hc hslash
  · intro _ _ hc
    exact absurd hc hslash

theorem hexValue?_hexDigit : ∀ n < 16, hexValue? (hexDigit n) = some n := by decide

theorem readString_hex (done : List Char) {c : Char} (hlow : c.toNat < 32) (rest : List Char) :
    readString done none
        ('\\' :: 'u' :: '0' :: '0' :: hexDigit (c.toNat / 16) :: hexDigit (c.toNat % 16) :: rest)
      = readString (c :: done) none rest := by
  have hhigh := hexValue?_hexDigit (c.toNat / 16) (by omega)
  have hunit := hexValue?_hexDigit (c.toNat % 16) (by omega)
  have hzero : hexValue? '0' = some 0 := rfl
  have hsame : ((0 * 16 + 0) * 16 + c.toNat / 16) * 16 + c.toNat % 16 = c.toNat := by omega
  have hread : hexUnit? '0' '0' (hexDigit (c.toNat / 16)) (hexDigit (c.toNat % 16))
      = some c.toNat := by
    rw [hexUnit?, hzero, hhigh, hunit]
    exact congrArg some hsame
  rw [readString.eq_def]
  simp only [hread]
  rw [if_neg (by simp; omega), if_neg (by simp; omega), Char.ofNat_toNat]

/-- **A character is read back from its escape.** -/
theorem readString_escapeChar (done : List Char) (c : Char) (rest : List Char) :
    readString done none (escapeChar c ++ rest) = readString (c :: done) none rest := by
  have hnumber {n : Nat} (hn : c.toNat = n) : c = Char.ofNat n := by rw [← hn, Char.ofNat_toNat]
  rw [escapeChar]
  split
  · rename_i hquote
    exact readString_escapeLetter (by rw [hquote]; rfl) (by decide) rest
  split
  · rename_i hslash
    exact readString_escapeLetter (by rw [hslash]; rfl) (by decide) rest
  split
  · rename_i hquote hslash hlow
    exact readString_plain done hquote hslash hlow rest
  rename_i hcontrol
  split
  · rename_i hc
    exact readString_escapeLetter (by rw [hnumber hc]; rfl) (by decide) rest
  split
  · rename_i hc
    exact readString_escapeLetter (by rw [hnumber hc]; rfl) (by decide) rest
  split
  · rename_i hc
    exact readString_escapeLetter (by rw [hnumber hc]; rfl) (by decide) rest
  split
  · rename_i hc
    exact readString_escapeLetter (by rw [hnumber hc]; rfl) (by decide) rest
  split
  · rename_i hc
    exact readString_escapeLetter (by rw [hnumber hc]; rfl) (by decide) rest
  · exact readString_hex done (Nat.lt_of_not_le hcontrol) rest

theorem readString_flatMap_escapeChar (chars done rest : List Char) :
    readString done none (chars.flatMap escapeChar ++ '"' :: rest)
      = some (String.ofList (done.reverse ++ chars), rest) := by
  induction chars generalizing done with
  | nil => rw [List.flatMap_nil, List.nil_append, readString, List.append_nil]
  | cons c more ih =>
    rw [List.flatMap_cons, List.append_assoc, readString_escapeChar, ih, List.reverse_cons,
      List.append_assoc]
    rfl

/-- **A string is read back from its literal**, whatever follows. -/
theorem readToken_stringLiteral (text : String) (rest : List Char) :
    readToken ((stringLiteral text).toList ++ rest) = some (.scalar (.string text), rest) := by
  have hliteral : (stringLiteral text).toList ++ rest
      = '"' :: (text.toList.flatMap escapeChar ++ '"' :: rest) := by
    rw [stringLiteral, String.toList_ofList]
    simp
  rw [hliteral, readToken, readString_flatMap_escapeChar, List.reverse_nil, List.nil_append,
    String.ofList_toList]
  rfl

/-! ## Numbers -/

/-- A number ends here: what follows cannot belong to it. -/
def EndsNumber (rest : List Char) : Prop :=
  ∀ c ∈ rest.head?, c.isDigit = false ∧ c ≠ '.' ∧ c ≠ 'e' ∧ c ≠ 'E'

theorem endsNumber_nil : EndsNumber [] := fun _ h ↦ nomatch h

theorem endsNumber_cons {c : Char} (h : c ∈ [',', ']', '\x7d', ':']) (rest : List Char) :
    EndsNumber (c :: rest) := by
  have hall : ∀ c ∈ [',', ']', '\x7d', ':'],
      c.isDigit = false ∧ c ≠ '.' ∧ c ≠ 'e' ∧ c ≠ 'E' := by simp
  intro first hfirst
  exact Option.some.inj hfirst ▸ hall c h

variable {text rest left : List Char}

theorem spanDigits_append (hends : EndsNumber rest) (text : List Char) :
    spanDigits (text ++ rest) = ((spanDigits text).1, (spanDigits text).2 ++ rest) := by
  induction text with
  | nil =>
    rcases rest with _ | ⟨c, more⟩
    · rfl
    · have hdigit := (hends c rfl).1
      simp [spanDigits, hdigit]
  | cons c more ih =>
    obtain ⟨hdigits, hleft⟩ := Prod.mk.inj ih
    rw [spanDigits, spanDigits, List.cons_append, List.takeWhile_cons, List.takeWhile_cons,
      List.dropWhile_cons, List.dropWhile_cons]
    rcases c.isDigit
    · rfl
    · exact Prod.ext (congrArg (c :: ·) hdigits) hleft

theorem readSign_append (hne : text ≠ []) (rest : List Char) :
    readSign (text ++ rest) = ((readSign text).1, (readSign text).2 ++ rest) := by
  rcases text with _ | ⟨c, more⟩
  · exact absurd rfl hne
  · by_cases hminus : c = '-'
    · rw [hminus]
      rfl
    · have hnone (tail : List Char) : readSign (c :: tail) = (false, c :: tail) := by
        rw [readSign]
        intro _ hc
        exact hminus (List.cons.inj hc).1
      rw [List.cons_append, hnone, hnone]
      rfl

theorem readExponentSign_append (hne : text ≠ []) (rest : List Char) :
    readExponentSign (text ++ rest)
      = ((readExponentSign text).1, (readExponentSign text).2 ++ rest) := by
  rcases text with _ | ⟨c, more⟩
  · exact absurd rfl hne
  · by_cases hminus : c = '-'
    · rw [hminus]
      rfl
    · by_cases hplus : c = '+'
      · rw [hplus]
        rfl
      · have hnone (tail : List Char) : readExponentSign (c :: tail) = (false, c :: tail) := by
          rw [readExponentSign]
          · intro _ hc
            exact hminus (List.cons.inj hc).1
          · intro _ hc
            exact hplus (List.cons.inj hc).1
        rw [List.cons_append, hnone, hnone]
        rfl

theorem digits_eq_some_iff {α : Type} (part : List Char → α) (text : List Char) {value : α} :
    (match spanDigits text with
      | ([], _) => none
      | (digits, rest) => some (part digits, rest)) = some (value, left) ↔
      (spanDigits text).1 ≠ [] ∧ value = part (spanDigits text).1 ∧
        left = (spanDigits text).2 := by
  rcases spanDigits text with ⟨_ | ⟨digit, digits⟩, after⟩
  · simp
  · simp only [Option.some.injEq, Prod.mk.injEq, ne_eq, reduceCtorEq, not_false_eq_true, true_and]
    exact and_congr eq_comm eq_comm

/-- A fraction has a point and digits. Before anything but a point there is none. -/
theorem readFraction_eq_some_iff {fraction : Option (List Char)} :
    readFraction text = some (fraction, left) ↔
      (∀ c ∈ text.head?, c ≠ '.') ∧ fraction = none ∧ left = text ∨
      ∃ more, text = '.' :: more ∧ (spanDigits more).1 ≠ [] ∧
        fraction = some (spanDigits more).1 ∧ left = (spanDigits more).2 := by
  rw [readFraction.eq_def]
  split
  · rename_i more
    constructor
    · intro h
      exact Or.inr ⟨more, rfl, (digits_eq_some_iff some more).mp h⟩
    · rintro (⟨hhead, -⟩ | ⟨other, heq, h⟩)
      · exact absurd rfl (hhead '.' rfl)
      · obtain rfl := (List.cons.inj heq).2
        exact (digits_eq_some_iff some more).mpr h
  · rename_i hpoint
    constructor
    · intro h
      obtain ⟨rfl, rfl⟩ := Prod.mk.inj (Option.some.inj h)
      refine Or.inl ⟨?_, rfl, rfl⟩
      rintro c hc rfl
      obtain ⟨more, rfl⟩ := List.head?_eq_some_iff.mp hc
      exact hpoint more rfl
    · rintro (⟨-, rfl, rfl⟩ | ⟨more, rfl, -⟩)
      · rfl
      · exact absurd rfl (hpoint more)

/-- An exponent has its letter, at most one sign and digits. Before anything but its letter there is
none. -/
theorem readExponent_eq_some_iff {exponent : Option (Bool × List Char)} :
    readExponent text = some (exponent, left) ↔
      (∀ c ∈ text.head?, c ≠ 'e' ∧ c ≠ 'E') ∧ exponent = none ∧ left = text ∨
      ∃ c more, text = c :: more ∧ (c = 'e' ∨ c = 'E') ∧
        (spanDigits (readExponentSign more).2).1 ≠ [] ∧
        exponent = some ((readExponentSign more).1, (spanDigits (readExponentSign more).2).1) ∧
        left = (spanDigits (readExponentSign more).2).2 := by
  have hletter {c : Char} (hc : c = 'e' ∨ c = 'E') (more : List Char) :
      readExponent (c :: more) = match spanDigits (readExponentSign more).2 with
        | ([], _) => none
        | (digits, rest) => some (some ((readExponentSign more).1, digits), rest) := by
    rcases hc with rfl | rfl <;> rfl
  by_cases hhead : ∀ c ∈ text.head?, c ≠ 'e' ∧ c ≠ 'E'
  · have hnone : readExponent text = some (none, text) := by
      rw [readExponent]
      · rintro more rfl
        exact (hhead 'e' rfl).1 rfl
      · rintro more rfl
        exact (hhead 'E' rfl).2 rfl
    rw [hnone]
    constructor
    · intro h
      obtain ⟨rfl, rfl⟩ := Prod.mk.inj (Option.some.inj h)
      exact Or.inl ⟨hhead, rfl, rfl⟩
    · rintro (⟨-, rfl, rfl⟩ | ⟨c, more, rfl, hc, -⟩)
      · rfl
      · exact absurd hc (not_or.mpr (hhead c rfl))
  · obtain ⟨c, hc, hlast⟩ : ∃ c ∈ text.head?, c = 'e' ∨ c = 'E' := by
      by_contra hnone
      exact hhead fun c hc ↦ not_or.mp fun h ↦ hnone ⟨c, hc, h⟩
    obtain ⟨more, rfl⟩ := List.head?_eq_some_iff.mp hc
    rw [hletter hlast]
    constructor
    · intro h
      have hdigits := (digits_eq_some_iff (fun digits ↦ some (_, digits)) _).mp h
      exact Or.inr ⟨c, more, rfl, hlast, hdigits⟩
    · rintro (⟨hother, -⟩ | ⟨other, tail, heq, -, h⟩)
      · exact absurd hother hhead
      · obtain ⟨rfl, rfl⟩ := List.cons.inj heq
        exact (digits_eq_some_iff (fun digits ↦ some (_, digits)) _).mpr h

/-- Two texts in a row begin as the first does, or as the second if the first is empty. -/
theorem forall_head?_append {P : Char → Prop} (htext : ∀ c ∈ text.head?, P c)
    (hrest : ∀ c ∈ rest.head?, P c) : ∀ c ∈ (text ++ rest).head?, P c := by
  rcases text with _ | ⟨c, more⟩
  · exact hrest
  · exact htext

theorem readFraction_append (hends : EndsNumber rest) {fraction : Option (List Char)}
    (h : readFraction text = some (fraction, left)) :
    readFraction (text ++ rest) = some (fraction, left ++ rest) := by
  rw [readFraction_eq_some_iff] at h ⊢
  rcases h with ⟨hhead, rfl, rfl⟩ | ⟨more, rfl, hdigits⟩
  · exact Or.inl ⟨forall_head?_append hhead fun c hc ↦ (hends c hc).2.1, rfl, rfl⟩
  · refine Or.inr ⟨more ++ rest, rfl, ?_⟩
    rw [spanDigits_append hends]
    exact ⟨hdigits.1, hdigits.2.1, congrArg (· ++ rest) hdigits.2.2⟩

theorem readExponent_append (hends : EndsNumber rest) {exponent : Option (Bool × List Char)}
    (h : readExponent text = some (exponent, left)) :
    readExponent (text ++ rest) = some (exponent, left ++ rest) := by
  rw [readExponent_eq_some_iff] at h ⊢
  rcases h with ⟨hhead, rfl, rfl⟩ | ⟨c, more, rfl, hc, hdigits⟩
  · exact Or.inl ⟨forall_head?_append hhead fun c hc ↦ (hends c hc).2.2, rfl, rfl⟩
  · have hne : more ≠ [] := by
      rintro rfl
      exact hdigits.1 rfl
    refine Or.inr ⟨c, more ++ rest, rfl, hc, ?_⟩
    rw [readExponentSign_append hne, spanDigits_append hends]
    exact ⟨hdigits.1, hdigits.2.1, congrArg (· ++ rest) hdigits.2.2⟩

/-- The digits before the point of a number: at least one, and no zero before others. -/
def IsWhole (whole : List Char) : Prop :=
  whole ≠ [] ∧ ∀ digit more, whole ≠ '0' :: digit :: more

theorem readNumber_eq_some_iff {number : Number} : readNumber text = some (number, left) ↔
    IsWhole (spanDigits (readSign text).2).1 ∧ ∃ fraction after,
      readFraction (spanDigits (readSign text).2).2 = some (fraction, after) ∧
      ∃ exponent, readExponent after = some (exponent, left) ∧
        Number.ofLiteral? ⟨(readSign text).1, (spanDigits (readSign text).2).1, fraction, exponent⟩
          = some number := by
  rw [readNumber]
  obtain ⟨negative, unsigned⟩ := readSign text
  dsimp only
  generalize spanDigits unsigned = span
  obtain ⟨whole, after⟩ := span
  dsimp only
  split
  · simp [IsWhole]
  · simp [IsWhole]
  · rename_i hempty hzero
    have hwhole : IsWhole whole := ⟨hempty, fun _ _ h ↦ hzero _ _ h⟩
    simp only [Option.bind_eq_bind, Option.bind_eq_some_iff, Prod.exists, Option.pure_def,
      Option.some.injEq, Prod.mk.injEq]
    constructor
    · rintro ⟨fraction, after, hfraction, exponent, _, hexponent, _, hliteral, rfl, rfl⟩
      exact ⟨hwhole, fraction, after, hfraction, exponent, hexponent, hliteral⟩
    · rintro ⟨-, fraction, after, hfraction, exponent, hexponent, hliteral⟩
      exact ⟨fraction, after, hfraction, exponent, left, hexponent, number, hliteral, rfl, rfl⟩

/-- **A number is read in the same way wherever it ends.** -/
theorem readNumber_append (hends : EndsNumber rest) {number : Number}
    (h : readNumber text = some (number, left)) :
    readNumber (text ++ rest) = some (number, left ++ rest) := by
  have hne : text ≠ [] := by
    rintro rfl
    cases h
  obtain ⟨hwhole, fraction, after, hfraction, exponent, hexponent, hliteral⟩ :=
    readNumber_eq_some_iff.mp h
  rw [readNumber_eq_some_iff, readSign_append hne, spanDigits_append hends]
  exact ⟨hwhole, fraction, after ++ rest, readFraction_append hends hfraction, exponent,
    readExponent_append hends hexponent, hliteral⟩

theorem exists_cons_of_readNumber {number : Number} (h : readNumber text = some (number, left)) :
    ∃ c more, text = c :: more ∧ (c = '-' ∨ c.isDigit = true) := by
  obtain ⟨⟨hne, -⟩, -⟩ := readNumber_eq_some_iff.mp h
  rcases text with _ | ⟨c, more⟩
  · exact absurd rfl hne
  · refine ⟨c, more, rfl, ?_⟩
    by_contra hc
    rw [not_or, Bool.not_eq_true] at hc
    have hsign : readSign (c :: more) = (false, c :: more) := by
      rw [readSign]
      intro _ hminus
      exact hc.1 (List.cons.inj hminus).1
    rw [hsign, spanDigits, List.takeWhile_cons, hc.2] at hne
    exact hne rfl

/-- What begins a number begins nothing else. -/
theorem ne_of_beginsNumber {c other : Char} (hc : c = '-' ∨ c.isDigit = true)
    (hother : other ≠ '-' ∧ other.isDigit = false) : c ≠ other := by
  rintro rfl
  rcases hc with hminus | hdigit
  · exact hother.1 hminus
  · exact Bool.eq_false_iff.mp hother.2 hdigit

theorem readToken_of_readNumber {number : Number} (h : readNumber text = some (number, left)) :
    readToken text = some (.scalar (.number number), left) := by
  obtain ⟨c, more, rfl, hc⟩ := exists_cons_of_readNumber h
  have hall : ∀ other ∈ ['[', ']', '\x7b', '\x7d', ':', ',', '"', 'n', 't', 'f'],
      other ≠ '-' ∧ other.isDigit = false := by simp
  have hne : ∀ other ∈ ['[', ']', '\x7b', '\x7d', ':', ',', '"', 'n', 't', 'f'], c ≠ other :=
    fun other hother ↦ ne_of_beginsNumber hc (hall other hother)
  rw [readToken, h]
  · rfl
  all_goals
    intro _ heq
    exact hne _ (by simp) (List.cons.inj heq).1

/-! ### Characters of numbers -/

/-- What is taken off a text are digits, signs, points and letters of exponents. -/
def TakesNumber (text left : List Char) : Prop :=
  ∃ taken, text = taken ++ left ∧
    ∀ c ∈ taken, c.isDigit = true ∨ c ∈ ['-', '+', '.', 'e', 'E']

namespace TakesNumber

theorem refl (text : List Char) : TakesNumber text text := ⟨[], rfl, fun _ h ↦ nomatch h⟩

theorem trans {first : List Char} (h : TakesNumber first text) (hleft : TakesNumber text left) :
    TakesNumber first left := by
  obtain ⟨taken, rfl, htaken⟩ := h
  obtain ⟨more, rfl, hmore⟩ := hleft
  refine ⟨taken ++ more, (List.append_assoc _ _ _).symm, fun c hc ↦ ?_⟩
  exact (List.mem_append.mp hc).elim (htaken c) (hmore c)

theorem sign {c : Char} (hc : c ∈ ['-', '+', '.', 'e', 'E']) (text : List Char) :
    TakesNumber (c :: text) text :=
  ⟨[c], rfl, fun _ h ↦ Or.inr (List.mem_singleton.mp h ▸ hc)⟩

theorem digits (text : List Char) : TakesNumber text (spanDigits text).2 :=
  ⟨text.takeWhile Char.isDigit, List.takeWhile_append_dropWhile.symm,
    fun _ h ↦ Or.inl (List.mem_takeWhile_imp h)⟩

end TakesNumber

theorem takesNumber_readSign (text : List Char) : TakesNumber text (readSign text).2 := by
  rw [readSign.eq_def]
  split
  · exact .sign (by decide) _
  · exact .refl _

theorem takesNumber_readExponentSign (text : List Char) :
    TakesNumber text (readExponentSign text).2 := by
  rw [readExponentSign.eq_def]
  split
  · exact .sign (by decide) _
  · exact .sign (by decide) _
  · exact .refl _

theorem takesNumber_readFraction {fraction : Option (List Char)}
    (h : readFraction text = some (fraction, left)) : TakesNumber text left := by
  rcases readFraction_eq_some_iff.mp h with ⟨-, -, rfl⟩ | ⟨more, rfl, -, -, rfl⟩
  · exact .refl left
  · exact (TakesNumber.sign (by decide) more).trans (.digits more)

theorem takesNumber_readExponent {exponent : Option (Bool × List Char)}
    (h : readExponent text = some (exponent, left)) : TakesNumber text left := by
  rcases readExponent_eq_some_iff.mp h with ⟨-, -, rfl⟩ | ⟨c, more, rfl, hc, -, -, rfl⟩
  · exact .refl left
  · have hletter : c ∈ ['-', '+', '.', 'e', 'E'] := by rcases hc with rfl | rfl <;> decide
    exact (TakesNumber.sign hletter more).trans
      ((takesNumber_readExponentSign more).trans (.digits _))

theorem takesNumber_readNumber {number : Number} (h : readNumber text = some (number, left)) :
    TakesNumber text left := by
  obtain ⟨-, fraction, after, hfraction, exponent, hexponent, -⟩ := readNumber_eq_some_iff.mp h
  refine (takesNumber_readSign text).trans ((TakesNumber.digits _).trans ?_)
  exact (takesNumber_readFraction hfraction).trans (takesNumber_readExponent hexponent)

/-! ## Integers -/

theorem digitsValue_toDigits (n : Nat) : Number.digitsValue (Nat.toDigits 10 n) = n := by
  have hvalue : Nat.ofDigitChars 10 (Nat.toDigits 10 n) 0 = n := Nat.ofDigitChars_ten_toDigits
  rwa [Nat.ofDigitChars_eq_foldl] at hvalue

theorem toDigits_ne_zero_cons {n : Nat} (h : 0 < n) (more : List Char) :
    Nat.toDigits 10 n ≠ '0' :: more := by
  induction n using Nat.strongRecOn generalizing more with
  | ind n ih =>
    by_cases hsmall : n < 10
    · have hall : ∀ n < 10, 0 < n → Nat.digitChar n ≠ '0' := by decide
      rw [Nat.toDigits_of_lt_base hsmall]
      intro heq
      exact hall n hsmall h (List.cons.inj heq).1
    · rw [Nat.toDigits_of_base_le (by decide) (Nat.le_of_not_lt hsmall)]
      intro heq
      rcases List.append_eq_cons_iff.mp heq with ⟨hnil, -⟩ | ⟨before, hbefore, -⟩
      · exact Nat.toDigits_ne_nil hnil
      · exact ih (n / 10) (by omega) (by omega) before hbefore

theorem isWhole_toDigits (n : Nat) : IsWhole (Nat.toDigits 10 n) := by
  refine ⟨Nat.toDigits_ne_nil, fun digit more ↦ ?_⟩
  rcases Nat.eq_zero_or_pos n with rfl | hpos
  · rw [Nat.toDigits_of_lt_base (by decide)]
    exact fun heq ↦ nomatch (List.cons.inj heq).2
  · exact toDigits_ne_zero_cons hpos _

theorem spanDigits_toDigits (n : Nat) :
    spanDigits (Nat.toDigits 10 n) = (Nat.toDigits 10 n, []) := by
  have hall : ∀ c ∈ Nat.toDigits 10 n, c.isDigit = true := fun c hc ↦
    Nat.isDigit_of_mem_toDigits (by decide) (by decide) hc
  rw [spanDigits, List.takeWhile_eq_self_iff.mpr hall, List.dropWhile_eq_nil_iff.mpr hall]

theorem readSign_toDigits (n : Nat) :
    readSign (Nat.toDigits 10 n) = (false, Nat.toDigits 10 n) := by
  rw [readSign.eq_def]
  split
  · rename_i rest hminus
    have hdigit : '-'.isDigit = true :=
      Nat.isDigit_of_mem_toDigits (b := 10) (n := n) (by decide) (by decide)
        (hminus ▸ List.mem_cons_self)
    cases hdigit
  · rfl

/-- **An integer within 64 bits is read back.** -/
theorem readNumber_integer {value : Int} (hlow : Number.minSigned ≤ value)
    (hhigh : value ≤ Number.maxUnsigned) :
    readNumber (Number.integer value).text.toList = some (.integer value, []) := by
  rcases value with n | n
  · have htext : (Number.integer (Int.ofNat n)).text.toList = Nat.toDigits 10 n :=
      String.toList_ofList
    have hfits : n ≤ Number.maxUnsigned := Int.ofNat_le.mp hhigh
    rw [htext, readNumber_eq_some_iff, readSign_toDigits, spanDigits_toDigits]
    refine ⟨isWhole_toDigits n, none, [], rfl, none, rfl, ?_⟩
    simp [Number.ofLiteral?, digitsValue_toDigits, hfits]
  · have htext : (Number.integer (Int.negSucc n)).text.toList = '-' :: Nat.toDigits 10 (n + 1) := by
      have hrepr : (Number.integer (Int.negSucc n)).text = "-" ++ (n + 1).repr := rfl
      have hdigits : (n + 1).repr.toList = Nat.toDigits 10 (n + 1) := String.toList_ofList
      rw [hrepr, String.toList_append, hdigits]
      rfl
    have hsign : readSign ('-' :: Nat.toDigits 10 (n + 1)) = (true, Nat.toDigits 10 (n + 1)) := rfl
    rw [htext, readNumber_eq_some_iff, hsign, spanDigits_toDigits]
    refine ⟨isWhole_toDigits (n + 1), none, [], rfl, none, rfl, ?_⟩
    have hfits : Number.minSigned ≤ -((n + 1 : Nat) : Int) := hlow
    rw [Number.ofLiteral?, digitsValue_toDigits]
    simp only [Bool.not_true, Bool.false_and, Bool.false_eq_true, if_false]
    rw [if_pos (by simpa using hfits)]
    rfl

/-! ## Texts in tokens -/

/-- A text is cut into tokens, one after the other and without blanks. -/
inductive CutInto : List Char → List JsonToken → Prop
  | nil : CutInto [] []
  | cons {c : Char} {word rest : List Char} {token : JsonToken} {tokens : List JsonToken} :
      isJsonBlank c = false → readToken (c :: word ++ rest) = some (token, rest) →
      CutInto rest tokens → CutInto (c :: word ++ rest) (token :: tokens)

theorem readTokens_of_cutInto {tokens : List JsonToken} (h : CutInto text tokens) {fuel : Nat}
    (hfuel : text.length ≤ fuel) (done : List JsonToken) :
    readTokens fuel done text = some (done.reverse ++ tokens) := by
  induction h generalizing fuel done with
  | nil =>
    rw [List.append_nil]
    rcases fuel with _ | fuel <;> rfl
  | @cons c word rest token tokens hblank htoken _ ih =>
    rw [List.cons_append, List.length_cons, List.length_append] at hfuel
    obtain ⟨fuel, rfl⟩ : ∃ less, fuel = less + 1 := ⟨fuel - 1, by omega⟩
    rw [List.cons_append] at htoken ⊢
    rw [readTokens, hblank, htoken]
    simp only [Bool.false_eq_true, if_false]
    rw [ih (by omega), List.reverse_cons, List.append_assoc]
    rfl

end JsonToken

/-- The tokens of a text are those that it is cut into. -/
theorem jsonTokens?_of_cutInto {text : List Char} {tokens : List JsonToken}
    (h : JsonToken.CutInto text tokens) : jsonTokens? text = some tokens :=
  JsonToken.readTokens_of_cutInto h (Nat.le_refl _) []

/-- The number is read back from its text. This is known of integers within 64 bits; the text of a
float is read back if reading rounds it to the float. -/
def Number.ReadsBack : Number → Prop
  | integer value => minSigned ≤ value ∧ value ≤ maxUnsigned
  | float value => JsonToken.readNumber value.text.toList = some (.float value, [])

theorem Number.ReadsBack.readNumber {number : Number} (h : number.ReadsBack) :
    JsonToken.readNumber number.text.toList = some (number, []) := by
  rcases number with value | value
  · exact JsonToken.readNumber_integer h.1 h.2
  · exact h

end DocumentSchema
