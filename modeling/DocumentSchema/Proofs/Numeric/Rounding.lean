import DocumentSchema.Numeric.Binary64
import Mathlib.Algebra.Order.Ring.Int
import Mathlib.Data.Nat.Log

/-!
# Integers as floats

An integer is compared through the float nearest to it. Many integers share one float as soon as
they need more than 53 bits, so nothing that is *strict* among integers has to be strict among their
floats. What is left is proved here: rounding is monotone, it leaves alone every integer of at most
`2^53` in size, and what it makes of any integer is whole.

Monotone is not obvious where the spacing of floats changes. There the power of two at which it
changes is a float itself, and the roundings of two integers on either side of it stay there.
-/

namespace DocumentSchema

/-! ## The nearest natural number -/

theorem div_le_roundHalfEven (num den : Nat) : num / den ≤ roundHalfEven num den := by
  unfold roundHalfEven
  dsimp only
  split
  · exact le_refl _
  · split <;> omega

theorem roundHalfEven_le (num den : Nat) : roundHalfEven num den ≤ num / den + 1 := by
  unfold roundHalfEven
  dsimp only
  split
  · omega
  · split <;> omega

theorem roundHalfEven_mono {num num' : Nat} (h : num ≤ num') (den : Nat) :
    roundHalfEven num den ≤ roundHalfEven num' den := by
  rcases (Nat.div_le_div_right h : num / den ≤ num' / den).lt_or_eq with hlt | heq
  · calc roundHalfEven num den ≤ num / den + 1 := roundHalfEven_le num den
      _ ≤ num' / den := hlt
      _ ≤ roundHalfEven num' den := div_le_roundHalfEven num' den
  · -- Between two neighbours the remainders decide, and they are in the same order.
    have hmod : num % den ≤ num' % den := by
      have hnum := Nat.div_add_mod num den
      have hnum' := Nat.div_add_mod num' den
      rw [heq] at hnum
      omega
    unfold roundHalfEven
    dsimp only
    rw [heq]
    split_ifs <;> omega

/-! ## The nearest number of 53 bits -/

theorem spacing_le_log2 (n : Nat) : spacing n ≤ n.log2 := Nat.sub_le _ _

theorem roundUnits_eq (num den : Nat) : roundUnits num den =
    roundHalfEven num (den * 2 ^ spacing (num / den)) * 2 ^ spacing (num / den) := rfl

theorem two_pow_log2_le_roundUnits {num den : Nat} (h : num / den ≠ 0) :
    2 ^ (num / den).log2 ≤ roundUnits num den := by
  have hquotient : 2 ^ ((num / den).log2 - spacing (num / den)) ≤
      num / (den * 2 ^ spacing (num / den)) := by
    rw [← Nat.div_div_eq_div_mul, Nat.le_div_iff_mul_le (Nat.two_pow_pos _), ← Nat.pow_add,
      Nat.sub_add_cancel (spacing_le_log2 _)]
    exact Nat.log2_self_le h
  calc 2 ^ (num / den).log2
      = 2 ^ ((num / den).log2 - spacing (num / den)) * 2 ^ spacing (num / den) := by
        rw [← Nat.pow_add, Nat.sub_add_cancel (spacing_le_log2 _)]
    _ ≤ roundUnits num den :=
        Nat.mul_le_mul_right _ (hquotient.trans (div_le_roundHalfEven _ _))

theorem roundUnits_le_two_pow (num den : Nat) :
    roundUnits num den ≤ 2 ^ ((num / den).log2 + 1) := by
  have hspacing : spacing (num / den) ≤ (num / den).log2 + 1 :=
    (spacing_le_log2 _).trans (Nat.le_succ _)
  have hquotient : num / (den * 2 ^ spacing (num / den)) <
      2 ^ ((num / den).log2 + 1 - spacing (num / den)) := by
    rw [← Nat.div_div_eq_div_mul, Nat.div_lt_iff_lt_mul (Nat.two_pow_pos _), ← Nat.pow_add,
      Nat.sub_add_cancel hspacing]
    exact Nat.lt_log2_self
  calc roundUnits num den
      ≤ 2 ^ ((num / den).log2 + 1 - spacing (num / den)) * 2 ^ spacing (num / den) :=
        Nat.mul_le_mul_right _ ((roundHalfEven_le _ _).trans hquotient)
    _ = 2 ^ ((num / den).log2 + 1) := by rw [← Nat.pow_add, Nat.sub_add_cancel hspacing]

/-- **Rounding is monotone.** -/
theorem roundUnits_mono {num num' : Nat} (h : num ≤ num') (den : Nat) :
    roundUnits num den ≤ roundUnits num' den := by
  have hlog : (num / den).log2 ≤ (num' / den).log2 := by
    rw [Nat.log2_eq_log_two, Nat.log2_eq_log_two]
    exact Nat.log_mono_right (Nat.div_le_div_right h)
  by_cases hspacing : spacing (num / den) = spacing (num' / den)
  · rw [roundUnits_eq, roundUnits_eq, hspacing]
    exact Nat.mul_le_mul_right _ (roundHalfEven_mono h _)
  · -- A power of two lies between the two magnitudes.
    have hlt : (num / den).log2 < (num' / den).log2 := by
      unfold spacing at hspacing
      omega
    have hne : num' / den ≠ 0 := by
      intro hzero
      rw [hzero, Nat.log2_zero] at hlt
      exact Nat.not_lt_zero _ hlt
    calc roundUnits num den ≤ 2 ^ ((num / den).log2 + 1) := roundUnits_le_two_pow num den
      _ ≤ 2 ^ (num' / den).log2 := Nat.pow_le_pow_right (by decide) hlt
      _ ≤ roundUnits num' den := two_pow_log2_le_roundUnits hne

theorem roundUnits_of_dvd {n : Nat} (h : 2 ^ spacing n ∣ n) : roundUnits n 1 = n := by
  rw [roundUnits_eq, Nat.div_one, Nat.one_mul]
  have hpos : 0 < 2 ^ spacing n := Nat.two_pow_pos _
  have hround : roundHalfEven n (2 ^ spacing n) = n / 2 ^ spacing n := by
    unfold roundHalfEven
    dsimp only
    rw [Nat.mod_eq_zero_of_dvd h, if_pos (by omega)]
  rw [hround, Nat.div_mul_cancel h]

/-! ## Integers -/

theorem spacing_mul_two_pow_le {n : Nat} (h : n < 2 ^ 53) (e : Nat) :
    spacing (n * 2 ^ e) ≤ e := by
  rcases Nat.eq_zero_or_pos n with rfl | hpos
  · simp [spacing]
  · have hlog : (n * 2 ^ e).log2 < 53 + e := by
      rw [Nat.log2_lt (Nat.mul_pos hpos (Nat.two_pow_pos e)).ne', Nat.pow_add]
      exact Nat.mul_lt_mul_of_pos_right h (Nat.two_pow_pos e)
    unfold spacing
    omega

theorem le_spacing_mul_two_pow {n : Nat} (h : 2 ^ 53 ≤ n) (e : Nat) :
    e ≤ spacing (n * 2 ^ e) := by
  have hlog : 53 + e ≤ (n * 2 ^ e).log2 := by
    rw [Nat.le_log2 (Nat.mul_pos (Nat.two_pow_pos 53 |>.trans_le h) (Nat.two_pow_pos e)).ne',
      Nat.pow_add]
    exact Nat.mul_le_mul_right _ h
  unfold spacing
  omega

/-- A natural number of at most `2^53` is a float, in units of any size. -/
theorem roundUnits_mul_two_pow {n : Nat} (h : n ≤ 2 ^ 53) (e : Nat) :
    roundUnits (n * 2 ^ e) 1 = n * 2 ^ e := by
  apply roundUnits_of_dvd
  rcases h.lt_or_eq with hlt | rfl
  · exact (Nat.pow_dvd_pow 2 (spacing_mul_two_pow_le hlt e)).mul_left n
  · -- The bound itself has one bit more than fits, but it is a power of two.
    rw [← Nat.pow_add]
    refine Nat.pow_dvd_pow 2 ((spacing_le_log2 _).trans ?_)
    rw [Nat.log2_two_pow]

theorem two_pow_dvd_roundUnits (n e : Nat) : 2 ^ e ∣ roundUnits (n * 2 ^ e) 1 := by
  rcases Nat.lt_or_ge n (2 ^ 53) with hlt | hge
  · rw [roundUnits_mul_two_pow hlt.le]
    exact Nat.dvd_mul_left _ _
  · rw [roundUnits_eq, Nat.div_one]
    exact (Nat.pow_dvd_pow 2 (le_spacing_mul_two_pow hge e)).mul_left _

theorem exists_unitsPerOne_eq : ∃ e, unitsPerOne = 2 ^ e := by
  unfold unitsPerOne
  generalize 1074 = e
  exact ⟨e, rfl⟩

/-- **The floats of integers are in the order of the integers**, though two of them may be equal. -/
theorem unitsOfInt_le {n m : Int} (h : n ≤ m) : unitsOfInt n ≤ unitsOfInt m := by
  have hround {a b : Nat} (h : a ≤ b) :
      roundUnits (a * unitsPerOne) 1 ≤ roundUnits (b * unitsPerOne) 1 :=
    roundUnits_mono (Nat.mul_le_mul_right _ h) 1
  unfold unitsOfInt
  dsimp only
  split_ifs with hn hm hm
  · have := hround (a := m.natAbs) (b := n.natAbs) (by omega)
    omega
  · omega
  · omega
  · have := hround (a := n.natAbs) (b := m.natAbs) (by omega)
    omega

/-- **An integer of at most `2^53` in size is its own float.** -/
theorem unitsOfInt_of_natAbs_le {n : Int} (h : n.natAbs ≤ 2 ^ 53) :
    unitsOfInt n = n * unitsPerOne := by
  have hround : roundUnits (n.natAbs * unitsPerOne) 1 = n.natAbs * unitsPerOne := by
    obtain ⟨e, he⟩ := exists_unitsPerOne_eq
    rw [he]
    exact roundUnits_mul_two_pow h e
  unfold unitsOfInt
  dsimp only
  rw [hround, Nat.cast_mul]
  split_ifs with hneg
  · rw [Int.ofNat_natAbs_of_nonpos hneg.le, Int.neg_mul, Int.neg_neg]
  · rw [Int.natAbs_of_nonneg (not_lt.mp hneg)]

theorem unitsOfInt_lt {n m : Int} (hn : n.natAbs ≤ 2 ^ 53) (hm : m.natAbs ≤ 2 ^ 53) (h : n < m) :
    unitsOfInt n < unitsOfInt m := by
  obtain ⟨e, he⟩ := exists_unitsPerOne_eq
  rw [unitsOfInt_of_natAbs_le hn, unitsOfInt_of_natAbs_le hm, he]
  exact Int.mul_lt_mul_of_pos_right h (Int.natCast_pos.mpr (Nat.two_pow_pos e))

/-- **The float of an integer is whole.** -/
theorem unitsPerOne_dvd_unitsOfInt (n : Int) : (unitsPerOne : Int) ∣ unitsOfInt n := by
  have hround : (unitsPerOne : Int) ∣ roundUnits (n.natAbs * unitsPerOne) 1 := by
    obtain ⟨e, he⟩ := exists_unitsPerOne_eq
    rw [he]
    exact Int.natCast_dvd_natCast.mpr (two_pow_dvd_roundUnits n.natAbs e)
  unfold unitsOfInt
  dsimp only
  split_ifs
  · exact Int.dvd_neg.mpr hround
  · exact hround

end DocumentSchema
