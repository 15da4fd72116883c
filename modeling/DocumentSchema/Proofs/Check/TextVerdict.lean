import DocumentSchema.Proofs.Check.Limits
import DocumentSchema.Proofs.Check.Parameters

/-!
# The verdict on a string

A pattern, options and a length may be set for a string, each or none of them. A string passes as
soon as one of those that are set accepts it, and the finding about one that does not pass is named
after the first that is set, in this order. `Admits` and `Refuses` say so of limits whose pattern is
any predicate on strings. What a finding says was expected is what the parameters say, word for
word: of every limit that is set, and of no other.
-/

namespace DocumentSchema

/-- The string is one of the options. Both are lowered if case does not matter. -/
def TextOptions.Offers (options : TextOptions) (text : String) : Prop :=
  ∃ option ∈ options.declared, if options.caseSensitive = true then option = text
    else Unicode.lowerText option = Unicode.lowerText text

theorem TextOptions.contains_iff {options : TextOptions} {text : String} :
    options.contains text = true ↔ options.Offers text := by
  rw [contains, List.any_eq_true, Offers]
  simp only [beq_iff_eq, comparable]
  cases options.caseSensitive <;> rfl

namespace TextLimits

variable {limits : TextLimits} {text : String} {params : Params}

/-! ## What is admitted -/

/-- The bounds on the length, which has no options. -/
def lengths (limits : TextLimits) : Limits Nat where
  min := limits.min
  max := limits.max
  options := none

/-- Nothing is set, or something that is set accepts the string. -/
inductive Admits (limits : TextLimits) (text : String) : Prop
  | unlimited (hpattern : limits.pattern = none) (hoptions : limits.options = none)
      (hlength : ¬limits.lengths.HasBound)
  | pattern (pattern : TextPattern) (hpattern : pattern ∈ limits.pattern)
      (haccepts : pattern.accepts text = true)
  | options (options : TextOptions) (hoptions : options ∈ limits.options)
      (hoffers : options.Offers text)
  | length (hlength : limits.lengths.HasBound) (hmin : ∀ min ∈ limits.min, min ≤ text.length)
      (hmax : ∀ max ∈ limits.max, text.length ≤ max)

/-- The kind of finding about a string that is not admitted. -/
inductive Refuses (limits : TextLimits) (text : String) : String → Prop
  | pattern (hpattern : limits.pattern ≠ none) : limits.Refuses text Message.Kind.noMatch
  | options (hpattern : limits.pattern = none) (hoptions : limits.options ≠ none) :
    limits.Refuses text Message.Kind.invalidStringOption
  | tooShort (hpattern : limits.pattern = none) (hoptions : limits.options = none)
      (hbelow : limits.lengths.Below text.length) : limits.Refuses text Message.Kind.stringTooShort
  | tooLong (hpattern : limits.pattern = none) (hoptions : limits.options = none)
      (hbelow : ¬limits.lengths.Below text.length) (habove : limits.lengths.Above text.length) :
    limits.Refuses text Message.Kind.stringTooLong

theorem hasLength_iff : limits.hasLength = true ↔ limits.lengths.HasBound := by
  simp [hasLength, Limits.HasBound, lengths, Option.isSome_iff_ne_none]

theorem isUnlimited_iff : limits.isUnlimited = true ↔
    limits.pattern = none ∧ limits.options = none ∧ ¬limits.lengths.HasBound := by
  simp [isUnlimited, ← hasLength_iff, and_assoc]

theorem isMatch_iff : limits.isMatch text = true ↔
    ∃ pattern ∈ limits.pattern, pattern.accepts text = true := by
  simp [isMatch, Option.any_eq_true]

theorem isOption_iff :
    limits.isOption text = true ↔ ∃ options ∈ limits.options, options.Offers text := by
  simp [isOption, Option.any_eq_true, TextOptions.contains_iff]

theorem tooShort_iff : limits.tooShort text = true ↔ limits.lengths.Below text.length := by
  simp [tooShort, Limits.Below, lengths, Option.any_eq_true]

theorem tooLong_iff : limits.tooLong text = true ↔ limits.lengths.Above text.length := by
  simp [tooLong, Limits.Above, lengths, Option.any_eq_true]

theorem isWithin_iff : limits.isWithin text = true ↔
    limits.lengths.HasBound ∧ ¬limits.lengths.Below text.length ∧
      ¬limits.lengths.Above text.length := by
  rw [isWithin, Bool.and_eq_true, Bool.and_eq_true, Bool.not_eq_true', Bool.not_eq_true',
    hasLength_iff, ← tooShort_iff, ← tooLong_iff, Bool.not_eq_true, Bool.not_eq_true, and_assoc]

theorem accepts_iff : limits.accepts text = true ↔ limits.Admits text := by
  rw [accepts, Bool.or_eq_true, Bool.or_eq_true, Bool.or_eq_true, isUnlimited_iff, isMatch_iff,
    isOption_iff, isWithin_iff, Limits.not_below_iff, Limits.not_above_iff]
  constructor
  · rintro (((⟨hpattern, hoptions, hlength⟩ | ⟨pattern, hpattern, haccepts⟩) |
      ⟨options, hoptions, hoffers⟩) | ⟨hlength, hmin, hmax⟩)
    · exact .unlimited hpattern hoptions hlength
    · exact .pattern pattern hpattern haccepts
    · exact .options options hoptions hoffers
    · exact .length hlength hmin hmax
  · intro h
    cases h with
    | unlimited hpattern hoptions hlength =>
      exact .inl (.inl (.inl ⟨hpattern, hoptions, hlength⟩))
    | pattern pattern hpattern haccepts => exact .inl (.inl (.inr ⟨pattern, hpattern, haccepts⟩))
    | options options hoptions hoffers => exact .inl (.inr ⟨options, hoptions, hoffers⟩)
    | length hlength hmin hmax => exact .inr ⟨hlength, hmin, hmax⟩

theorem below_or_above (h : ¬limits.Admits text) (hpattern : limits.pattern = none)
    (hoptions : limits.options = none) :
    limits.lengths.Below text.length ∨ limits.lengths.Above text.length := by
  refine Classical.byContradiction fun hnot ↦ h ?_
  rw [not_or, Limits.not_below_iff, Limits.not_above_iff] at hnot
  by_cases hlength : limits.lengths.HasBound
  · exact .length hlength hnot.1 hnot.2
  · exact .unlimited hpattern hoptions hlength

theorem refuses_findingKind (h : ¬limits.Admits text) :
    limits.Refuses text (limits.findingKind text) := by
  rw [findingKind]
  split
  · rename_i hpattern
    exact .pattern (Option.isSome_iff_ne_none.mp hpattern)
  · rename_i hpattern
    rw [Bool.not_eq_true, Option.isSome_eq_false_iff, Option.isNone_iff_eq_none] at hpattern
    split
    · rename_i hoptions
      exact .options hpattern (Option.isSome_iff_ne_none.mp hoptions)
    · rename_i hoptions
      rw [Bool.not_eq_true, Option.isSome_eq_false_iff, Option.isNone_iff_eq_none] at hoptions
      split
      · rename_i hshort
        exact .tooShort hpattern hoptions (tooShort_iff.mp hshort)
      · rename_i hshort
        have hbelow := mt tooShort_iff.mpr hshort
        exact .tooLong hpattern hoptions hbelow
          ((below_or_above h hpattern hoptions).resolve_left hbelow)

/-! ## What was expected -/

/-- What a finding about a string says was expected: of the limits that are set, what the parameters
say, where a bound that is missing beside the other is null. -/
def expectation (params : Params) : Members :=
  params.entry "regex" ++ params.entry "options" ++
    if (params.present? "min").isSome || (params.present? "max").isSome then
      [("min", params.orNull "min"), ("max", params.orNull "max")] else []

theorem SetBy.expected_eq (h : limits.SetBy params) :
    limits.expected = .object (expectation params) := by
  rw [expected, expectation, Params.entry, Params.entry, Params.orNull, Params.orNull, h.regex,
    h.options, h.min, h.max, Option.map_map, Option.map_map, Option.isSome_map, Option.isSome_map]
  rfl

end TextLimits

/-! ## The check -/

namespace Check

variable {field : String} {params : Params} {function : Option CustomCheck} {check : Check}

theorem build_string_eq_ok_iff : build .string field params function = .ok check ↔
    ∃ limits : TextLimits, limits.SetBy params ∧ check = text limits := by
  change (TextLimits.ofParams field params).map text = .ok check ↔ _
  simp only [map_eq_ok_iff, TextLimits.ofParams_eq_ok_iff, eq_comm (a := check)]

/-- **The verdict on a string.** Parameters that are taken set limits. Then anything that is no
string has the wrong type, a string passes if and only if it is admitted, and about any other there
is one finding, of the kind that refuses it and with the limits that are set. -/
theorem build_string (h : build .string field params function = .ok check) :
    ∃ limits : TextLimits, limits.SetBy params ∧ ∀ path,
      (∀ value, (∀ text, value ≠ .string text) →
        check.run path value = .ok (some (.invalidType path "string"))) ∧
      ∀ text, (check.run path (.string text) = .ok none ↔ limits.Admits text) ∧
        (¬limits.Admits text → ∃ kind, limits.Refuses text kind ∧ check.run path (.string text) =
          .ok (some ((Message.new kind path).withExpected
            (.object (TextLimits.expectation params))))) := by
  obtain ⟨limits, hlimits, rfl⟩ := build_string_eq_ok_iff.mp h
  refine ⟨limits, hlimits, fun path ↦ ⟨fun value hvalue ↦ ?_, fun string ↦ ⟨?_, fun hnot ↦ ?_⟩⟩⟩
  · cases value with
    | string string => exact absurd rfl (hvalue string)
    | null | bool _ | number _ | array _ | object _ => rfl
  · rw [run, checkText, Except.ok.injEq, TextLimits.check, ← TextLimits.accepts_iff]
    split
    · rename_i haccepts
      exact iff_of_true rfl haccepts
    · rename_i haccepts
      exact iff_of_false (fun h ↦ by cases h) haccepts
  · refine ⟨limits.findingKind string, TextLimits.refuses_findingKind hnot, ?_⟩
    rw [run, checkText, TextLimits.check, if_neg (mt TextLimits.accepts_iff.mp hnot),
      hlimits.expected_eq]

/-- Case does not matter for these options, a length of at most two would do as well, and a bound of
null is none. -/
theorem build_string_caseless :
    ∃ check, build .string "f" [("max", .ofNat 2), ("min", .null), ("case_sensitive", .bool false),
        ("options", .array [.string "Acre"])] none = .ok check ∧
      check.run "f" (.bool true) = .ok (some (.invalidType "f" "string")) ∧
      ∃ kind, check.run "f" (.string "sqm") = .ok (some ((Message.new kind "f").withExpected
        (.object [("options", .array [.string "Acre"]), ("min", .null), ("max", .ofNat 2)]))) := by
  have hbuild : build .string "f" [("max", .ofNat 2), ("min", .null),
      ("case_sensitive", .bool false), ("options", .array [.string "Acre"])] none =
        .ok (text ⟨none, some ⟨["Acre"], false⟩, none, some 2⟩) := rfl
  have haccepts :
      ¬TextLimits.accepts ⟨none, some ⟨["Acre"], false⟩, none, some 2⟩ "sqm" = true := by
    decide +kernel
  obtain ⟨limits, -, hlaw⟩ := build_string hbuild
  refine ⟨_, hbuild, (hlaw "f").1 (.bool true) (by simp), ?_⟩
  have hnot : ¬limits.Admits "sqm" := by
    rw [← ((hlaw "f").2 "sqm").1, run, checkText, TextLimits.check, if_neg haccepts]
    exact fun h ↦ by cases h
  obtain ⟨kind, -, hrun⟩ := ((hlaw "f").2 "sqm").2 hnot
  exact ⟨kind, hrun⟩

end Check

end DocumentSchema
