import DocumentSchema.Message
import DocumentSchema.Proofs.Check.Limits
import DocumentSchema.Proofs.Check.Parameters
import DocumentSchema.Proofs.Numeric.Rounding

/-!
# The verdict on a number

What is found about a number is said in any order first: `Limits.Finds` names the finding about a
value that limits do not admit. The check of a number comes to what it says of the *floats* of its
limits and of the number, so nothing depends on how any of them is spelled. The check of a whole
number is the same check for numbers whose float is whole, and refuses all others.
-/

namespace DocumentSchema

/-! ## Findings in an order -/

namespace Limits

variable {α β : Type} [LinearOrder α] [LinearOrder β] {limits : Limits α} {a : α}

/-- The kind of finding about a value, if there is one. -/
inductive Finds (limits : Limits α) (a : α) : Option String → Prop
  | nothing (hadmits : limits.Admits a) : limits.Finds a none
  | tooSmall (hadmits : ¬limits.Admits a) (hbelow : limits.Below a) :
    limits.Finds a (some Message.Kind.numberTooSmall)
  | tooLarge (hadmits : ¬limits.Admits a) (hbelow : ¬limits.Below a) (habove : limits.Above a) :
    limits.Finds a (some Message.Kind.numberTooLarge)
  | noOption (hadmits : ¬limits.Admits a) (hbound : ¬limits.HasBound)
      (hoptions : limits.options ≠ none) :
    limits.Finds a (some Message.Kind.invalidNumberOption)

theorem exists_finds (limits : Limits α) (a : α) : ∃ kind, limits.Finds a kind := by
  by_cases hadmits : limits.Admits a
  · exact ⟨none, .nothing hadmits⟩
  · by_cases hbelow : limits.Below a
    · exact ⟨_, .tooSmall hadmits hbelow⟩
    · by_cases habove : limits.Above a
      · exact ⟨_, .tooLarge hadmits hbelow habove⟩
      · obtain ⟨hbound, hoptions⟩ := of_not_admits hadmits hbelow habove
        exact ⟨_, .noOption hadmits hbound hoptions⟩

theorem Finds.unique {kind kind' : Option String} (h : limits.Finds a kind)
    (h' : limits.Finds a kind') : kind = kind' := by
  cases h with
  | nothing hadmits =>
    cases h' with
    | nothing => rfl
    | tooSmall hnot | tooLarge hnot | noOption hnot => exact absurd hadmits hnot
  | tooSmall hadmits hbelow =>
    cases h' with
    | nothing h => exact absurd h hadmits
    | tooSmall => rfl
    | tooLarge _ hnot => exact absurd hbelow hnot
    | noOption _ hbound => exact absurd hbelow.hasBound hbound
  | tooLarge hadmits hbelow habove =>
    cases h' with
    | nothing h => exact absurd h hadmits
    | tooSmall _ h => exact absurd h hbelow
    | tooLarge => rfl
    | noOption _ hbound => exact absurd habove.hasBound hbound
  | noOption hadmits hbound =>
    cases h' with
    | nothing h => exact absurd h hadmits
    | tooSmall _ h => exact absurd h.hasBound hbound
    | tooLarge _ _ h => exact absurd h.hasBound hbound
    | noOption => rfl

/-- A function that keeps the order of all values involved keeps what is found. -/
theorem Finds.map {f : α → β} {set : Set α} {kind : Option String} (h : limits.Finds a kind)
    (hf : StrictMonoOn f set) (hlimits : limits.Within set) (ha : a ∈ set) :
    (limits.map f).Finds (f a) kind := by
  cases h with
  | nothing hadmits => exact .nothing ((admits_map_iff hf hlimits ha).mpr hadmits)
  | tooSmall hadmits hbelow =>
    exact .tooSmall (mt (admits_map_iff hf hlimits ha).mp hadmits)
      ((below_map_iff hf hlimits ha).mpr hbelow)
  | tooLarge hadmits hbelow habove =>
    exact .tooLarge (mt (admits_map_iff hf hlimits ha).mp hadmits)
      (mt (below_map_iff hf hlimits ha).mp hbelow) ((above_map_iff hf hlimits ha).mpr habove)
  | noOption hadmits hbound hoptions =>
    exact .noOption (mt (admits_map_iff hf hlimits ha).mp hadmits) (mt hasBound_map.mp hbound)
      (mt Option.map_eq_none_iff.mp hoptions)

end Limits

/-! ## The floats of limits -/

namespace NumberLimits

variable {limits : NumberLimits} {n : Number} {params : Params}

/-- The floats of the limits, in signed units. -/
def values (limits : NumberLimits) : Limits Int where
  min := limits.min.map Number.units
  max := limits.max.map Number.units
  options := limits.options.map (·.map Number.units)

theorem tooSmall_iff : limits.tooSmall n = true ↔ limits.values.Below n.units := by
  simp [tooSmall, Limits.Below, values, Option.any_eq_true]

theorem tooLarge_iff : limits.tooLarge n = true ↔ limits.values.Above n.units := by
  simp [tooLarge, Limits.Above, values, Option.any_eq_true]

theorem isOption_iff :
    limits.isOption n = true ↔ ∃ options ∈ limits.values.options, n.units ∈ options := by
  simp [isOption, values, Option.any_eq_true]

theorem hasBounds_iff : limits.hasBounds = true ↔ limits.values.HasBound := by
  simp [hasBounds, Limits.HasBound, values, Option.isSome_iff_ne_none]

theorem accepts_iff : limits.accepts n = true ↔ limits.values.Admits n.units := by
  have hnone : limits.options.isNone = true ↔ limits.values.options = none := by
    simp [values]
  rw [accepts, Bool.or_eq_true, isOption_iff, Limits.Admits, ← Limits.not_below_iff,
    ← Limits.not_above_iff, ← tooSmall_iff, ← tooLarge_iff]
  simp only [Bool.and_eq_true, Bool.or_eq_true, Bool.not_eq_true', Bool.not_eq_true, hasBounds_iff,
    hnone, and_assoc]

/-- **A check of a number finds what the floats say.** -/
theorem finds_check (limits : NumberLimits) (path : String) (n : Number) :
    limits.values.Finds n.units ((limits.check path n).map Message.kind) := by
  rw [check]
  split
  · rename_i haccepts
    exact .nothing (accepts_iff.mp haccepts)
  · rename_i haccepts
    have hadmits := mt accepts_iff.mpr haccepts
    split
    · rename_i hsmall
      exact .tooSmall hadmits (tooSmall_iff.mp hsmall)
    · rename_i hsmall
      have hbelow := mt tooSmall_iff.mpr hsmall
      split
      · rename_i hlarge
        exact .tooLarge hadmits hbelow (tooLarge_iff.mp hlarge)
      · rename_i hlarge
        -- The number is within bounds, so what it lacks is a bound beside the options.
        obtain ⟨hbound, hoptions⟩ :=
          Limits.of_not_admits hadmits hbelow (mt tooLarge_iff.mpr hlarge)
        exact .noOption hadmits hbound hoptions

theorem check_congr {m : Number} (h : m.units = n.units) (path : String) :
    limits.check path m = limits.check path n := by
  have hoption : limits.isOption m = limits.isOption n := by simp only [isOption, h]
  have hsmall : limits.tooSmall m = limits.tooSmall n := by simp only [tooSmall, h]
  have hlarge : limits.tooLarge m = limits.tooLarge n := by simp only [tooLarge, h]
  rw [check, check, accepts, accepts, hoption, hsmall, hlarge]

/-- The literals `5.0` and `5e0` have the float of `5`. -/
example : (Number.ofLiteral? ⟨false, ['5'], some ['0'], none⟩).map Number.units =
      some (Number.integer 5).units ∧
    (Number.ofLiteral? ⟨false, ['5'], none, some (false, ['0'])⟩).map Number.units =
      some (Number.integer 5).units := by
  decide +kernel

/-- The kind of finding depends on floats alone, those of the limits included. -/
theorem kind_check_eq {other : NumberLimits} (hvalues : other.values = limits.values) {m : Number}
    (h : m.units = n.units) (path : String) :
    (other.check path m).map Message.kind = (limits.check path n).map Message.kind := by
  have hfinds := finds_check other path m
  rw [hvalues, h] at hfinds
  exact hfinds.unique (finds_check limits path n)

/-! ## What was expected -/

/-- What a finding about a number says was expected: the bounds as they were written, or null, and
then the options if there are any. A number that is no option is told the options alone. -/
def expectation (params : Params) (kind : String) : Json :=
  if kind = Message.Kind.invalidNumberOption then .object (params.entry "options")
  else .object ([("min", params.orNull "min"), ("max", params.orNull "max")] ++
    params.entry "options")

theorem SetBy.expectedBounds_eq (h : limits.SetBy params) : limits.expectedBounds =
    .object ([("min", params.orNull "min"), ("max", params.orNull "max")] ++
      params.entry "options") := by
  rw [expectedBounds, written, written, optionsEntry, Params.orNull, Params.orNull, Params.entry,
    h.min, h.max, h.options, Option.map_map]
  rfl

theorem SetBy.expectedOptions_eq (h : limits.SetBy params) :
    limits.expectedOptions = .object (params.entry "options") := by
  rw [expectedOptions, optionsEntry, Params.entry, h.options, Option.map_map]
  rfl

theorem SetBy.eq_of_mem_check (h : limits.SetBy params) {path : String} {message : Message}
    (hmem : message ∈ limits.check path n) :
    message = (Message.new message.kind path).withExpected (expectation params message.kind) := by
  rw [check, h.expectedBounds_eq, h.expectedOptions_eq] at hmem
  split at hmem
  · cases hmem
  · split at hmem
    · obtain rfl := Option.some.inj hmem
      rfl
    · split at hmem
      · obtain rfl := Option.some.inj hmem
        rfl
      · obtain rfl := Option.some.inj hmem
        rfl

end NumberLimits

/-! ## Whole numbers -/

theorem Number.isIntegral_iff (n : Number) :
    n.isIntegral = true ↔ (unitsPerOne : Int) ∣ n.units := by
  cases n with
  | integer value => exact iff_of_true rfl (unitsPerOne_dvd_unitsOfInt value)
  | float value =>
    have hunits : (unitsPerOne : Int) ∣ value.signedUnits ↔ unitsPerOne ∣ value.units := by
      rw [Binary64.signedUnits, ← Int.natCast_dvd_natCast]
      split
      · exact Int.dvd_neg
      · exact Iff.rfl
    change (value.units % unitsPerOne == 0) = true ↔ _
    rw [beq_iff_eq, units, hunits, Nat.dvd_iff_mod_eq_zero]

/-! ## Both checks -/

namespace Check

def foundKind (check : Check) (path : String) (value : Json) : Except SchemaError (Option String) :=
  (check.run path value).map (·.map Message.kind)

/-- What a check of numbers and a check of whole numbers do under limits that parameters set. -/
structure JudgesNumbers (params : Params) (limits : Limits Int) (number integer : Check) :
    Prop where
  /-- Anything else than a number has the wrong type. -/
  other : ∀ path value, (∀ n, value ≠ .number n) →
    number.run path value = .ok (some (.invalidType path "number")) ∧
      integer.run path value = .ok (some (.invalidType path "integer"))
  /-- A number is judged by its float, and told what the parameters say. -/
  verdict : ∀ path n, ∃ finding, number.run path (.number n) = .ok finding ∧
    limits.Finds n.units (finding.map Message.kind) ∧ ∀ message ∈ finding, message =
      (Message.new message.kind path).withExpected (NumberLimits.expectation params message.kind)
  /-- A number whose float is whole is judged alike by both. -/
  whole : ∀ path n, (unitsPerOne : Int) ∣ n.units →
    integer.run path (.number n) = number.run path (.number n)
  /-- Any other number is no whole number. -/
  broken : ∀ path n, ¬(unitsPerOne : Int) ∣ n.units →
    integer.run path (.number n) = .ok (some (.invalidType path "integer"))
  /-- Numbers with one float are judged alike. -/
  spelled : ∀ path m n, m.units = n.units →
    number.run path (.number m) = number.run path (.number n) ∧
      integer.run path (.number m) = integer.run path (.number n)
  /-- The kind of finding stays the same also where limits are spelled in another way. -/
  limitsSpelled : ∀ other : NumberLimits, other.values = limits → ∀ path m n, m.units = n.units →
    (Check.number other).foundKind path (.number m) = number.foundKind path (.number n) ∧
      (Check.integer other).foundKind path (.number m) = integer.foundKind path (.number n)

variable {field : String} {params : Params} {function : Option CustomCheck}
  {limits : NumberLimits} {check : Check}

theorem run_integer (limits : NumberLimits) (path : String) (n : Number) :
    (integer limits).run path (.number n) = if (unitsPerOne : Int) ∣ n.units then
      (number limits).run path (.number n) else .ok (some (.invalidType path "integer")) := by
  change Except.ok (if n.isIntegral then limits.check path n else _) = _
  by_cases hwhole : (unitsPerOne : Int) ∣ n.units
  · rw [if_pos hwhole, if_pos (n.isIntegral_iff.mpr hwhole)]
    rfl
  · rw [if_neg hwhole, if_neg (mt n.isIntegral_iff.mp hwhole)]

theorem judgesNumbers (h : limits.SetBy params) :
    JudgesNumbers params limits.values (number limits) (integer limits) where
  other path value hvalue := by
    cases value with
    | number n => exact absurd rfl (hvalue n)
    | null | bool _ | string _ | array _ | object _ => exact ⟨rfl, rfl⟩
  verdict path n :=
    ⟨limits.check path n, rfl, limits.finds_check path n, fun _ ↦ h.eq_of_mem_check⟩
  whole path n hwhole := by rw [run_integer, if_pos hwhole]
  broken path n hbroken := by rw [run_integer, if_neg hbroken]
  spelled path m n hunits := by
    have hnumber : (number limits).run path (.number m) = (number limits).run path (.number n) :=
      congrArg Except.ok (NumberLimits.check_congr hunits path)
    exact ⟨hnumber, by rw [run_integer, run_integer, hunits, hnumber]⟩
  limitsSpelled other hvalues path m n hunits := by
    have hnumber : (number other).foundKind path (.number m) =
        (number limits).foundKind path (.number n) :=
      congrArg Except.ok (NumberLimits.kind_check_eq hvalues hunits path)
    refine ⟨hnumber, ?_⟩
    rw [foundKind, foundKind, run_integer, run_integer, hunits]
    split
    · exact hnumber
    · rfl

theorem build_number_eq_ok_iff : build .number field params function = .ok check ↔
    ∃ limits : NumberLimits, limits.SetBy params ∧ check = number limits := by
  change (NumberLimits.ofParams field params).map number = .ok check ↔ _
  simp only [map_eq_ok_iff, NumberLimits.ofParams_eq_ok_iff, eq_comm (a := check)]

theorem build_integer_eq_ok_iff : build .integer field params function = .ok check ↔
    ∃ limits : NumberLimits, limits.SetBy params ∧ check = integer limits := by
  change (NumberLimits.ofParams field params).map integer = .ok check ↔ _
  simp only [map_eq_ok_iff, NumberLimits.ofParams_eq_ok_iff, eq_comm (a := check)]

/-- **The verdict on numbers and on whole numbers.** Parameters that are taken for numbers set
limits, and they are taken for whole numbers too. Then a number is judged by where its float lies
among the floats of the limits, a whole number in the same way, and no spelling matters. -/
theorem build_number {number : Check} (h : build .number field params function = .ok number) :
    ∃ limits : NumberLimits, limits.SetBy params ∧ ∃ integer,
      build .integer field params function = .ok integer ∧
        JudgesNumbers params limits.values number integer := by
  obtain ⟨limits, hlimits, rfl⟩ := build_number_eq_ok_iff.mp h
  exact ⟨limits, hlimits, .integer limits, build_integer_eq_ok_iff.mpr ⟨limits, hlimits, rfl⟩,
    judgesNumbers hlimits⟩

/-- An option may lie below the lower bound, and a bound of null is none. -/
theorem build_number_optionBelow :
    build .number "f" [("max", .null), ("options", .array [.number (.integer 1)]),
        ("min", .number (.integer 3))] none =
      .ok (number ⟨some (.integer 3), none, some [.integer 1]⟩) ∧
    ∃ limits : NumberLimits, limits.SetBy [("max", .null),
        ("options", .array [.number (.integer 1)]), ("min", .number (.integer 3))] ∧ ∃ integer,
      build .integer "f" [("max", .null), ("options", .array [.number (.integer 1)]),
        ("min", .number (.integer 3))] none = .ok integer ∧
        JudgesNumbers [("max", .null), ("options", .array [.number (.integer 1)]),
          ("min", .number (.integer 3))] limits.values
          (number ⟨some (.integer 3), none, some [.integer 1]⟩) integer :=
  ⟨rfl, build_number rfl⟩

end Check

end DocumentSchema
