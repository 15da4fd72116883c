import DocumentSchema.Check.Basic
import DocumentSchema.Proofs.Outcomes

/-!
# Parameters as they are read

A check reads its limits out of named values, and refuses what it cannot read. Every reader undoes a
way of writing, so what a check has read is exactly what stands there: nulls apart, and in whatever
order. `SetBy` says this of the limits of numbers and of strings, and the readings succeed with
limits if and only if these are set by the parameters.
-/

namespace DocumentSchema

/-! ## Single values -/

namespace Params

variable {field key : String} {params : Params}

theorem rejectUnknown_eq_ok_iff {allowed : List String} :
    rejectUnknown field params allowed = .ok () ↔ ∀ name ∈ Entries.keys params, name ∈ allowed := by
  rw [rejectUnknown]
  split
  · rename_i name value hfound
    have hmem := List.mem_of_find?_eq_some hfound
    have hunknown : name ∉ allowed := by simpa using List.find?_some hfound
    refine iff_of_false (fun h ↦ by cases h) fun h ↦ hunknown (h name ?_)
    exact List.mem_map_of_mem hmem
  · rename_i hnone
    refine iff_of_true rfl fun name hname ↦ ?_
    obtain ⟨entry, hentry, rfl⟩ := List.mem_map.mp hname
    simpa using List.find?_eq_none.mp hnone entry hentry

/-- What a reader has read is what stands there, where the reader undoes a way of writing. -/
theorem readAs_eq_ok_iff {α : Type} {wanted : String} {read : Json → Option α} {written : α → Json}
    (hread : ∀ value a, read value = some a ↔ value = written a) {result : Option α} :
    readAs wanted read field params key = .ok result ↔
      params.present? key = result.map written := by
  rw [readAs]
  cases params.present? key with
  | none => cases result <;> simp
  | some value =>
    dsimp only
    cases hvalue : read value with
    | some a =>
      obtain rfl := (hread value a).mp hvalue
      cases result with
      | none => simp
      | some b => simp [← hread, hvalue]
    | none =>
      cases result with
      | none => simp [invalid]
      | some b => simp [invalid, ← hread, hvalue]

theorem bound_eq_ok_iff {result : Option Number} :
    bound field params key = .ok result ↔ params.present? key = result.map .number :=
  readAs_eq_ok_iff fun value n ↦ by cases value <;> simp [number?]

theorem count_eq_ok_iff {result : Option Nat} :
    count field params key = .ok result ↔ params.present? key = result.map .ofNat := by
  refine readAs_eq_ok_iff fun value n ↦ ?_
  cases value with
  | number value =>
    cases value with
    | integer value =>
      simp only [count?, Number.asCount?, Json.ofNat, Json.number.injEq, Number.integer.injEq]
      split
      · rw [Option.some.injEq]
        omega
      · simp only [reduceCtorEq, false_iff]
        omega
    | float value => simp [count?, Number.asCount?, Json.ofNat]
  | null | bool _ | string _ | array _ | object _ => simp [count?, Json.ofNat]

theorem string_eq_ok_iff {result : Option String} :
    string field params key = .ok result ↔ params.present? key = result.map .string :=
  readAs_eq_ok_iff fun value text ↦ by cases value <;> simp [Json.asString?]

theorem boolean_eq_ok_iff {result : Option Bool} :
    boolean field params key = .ok result ↔ params.present? key = result.map .bool :=
  readAs_eq_ok_iff fun value b ↦ by cases value <;> simp [bool?]

theorem list_eq_ok_iff {result : Option (List Json)} :
    list field params key = .ok result ↔ params.present? key = result.map .array :=
  readAs_eq_ok_iff fun value items ↦ by cases value <;> simp [Json.asArray?]

def orNull (params : Params) (key : String) : Json := (params.present? key).getD .null

def entry (params : Params) (key : String) : Members :=
  ((params.present? key).map fun value ↦ (key, value)).toList

theorem items_eq_ok_iff {α β : Type} {step : Json → Except SchemaError α} (written : α → Json)
    (hstep : ∀ item a, step item = .ok a ↔ item = written a) (made : List α → β)
    {result : Option β} :
    (list field params key >>= fun
      | none => pure none
      | some items => items.mapM step >>= fun read ↦ pure (some (made read))) = .ok result ↔
      ∃ read : Option (List α), params.present? key =
        (read.map fun read ↦ .array (read.map written)) ∧ read.map made = result := by
  simp only [bind_eq_ok_iff, list_eq_ok_iff]
  constructor
  · rintro ⟨items, hitems, hread⟩
    cases items with
    | none => exact ⟨none, hitems, pure_eq_ok_iff.mp hread⟩
    | some items =>
      obtain ⟨read, hread, hmade⟩ := bind_eq_ok_iff.mp hread
      obtain rfl := (mapM_eq_ok_iff hstep).mp hread
      exact ⟨some read, hitems, pure_eq_ok_iff.mp hmade⟩
  · rintro ⟨read, hread, rfl⟩
    cases read with
    | none => exact ⟨none, hread, rfl⟩
    | some read =>
      refine ⟨some (read.map written), hread, bind_eq_ok_iff.mpr ⟨read, ?_, rfl⟩⟩
      exact (mapM_eq_ok_iff hstep).mpr rfl

end Params

/-! ## Limits of numbers -/

namespace NumberLimits

variable {field : String} {params : Params} {limits : NumberLimits}

/-- The parameters set the limits. -/
structure SetBy (limits : NumberLimits) (params : Params) : Prop where
  names : ∀ name ∈ Entries.keys params, name ∈ paramNames
  min : params.present? "min" = limits.min.map .number
  max : params.present? "max" = limits.max.map .number
  options : params.present? "options" =
    limits.options.map fun options ↦ .array (options.map .number)

theorem readOptions_eq_ok_iff {options : Option (List Number)} :
    readOptions field params = .ok options ↔
      params.present? "options" = options.map fun options ↦ .array (options.map .number) := by
  rw [readOptions]
  refine (Params.items_eq_ok_iff .number (fun item n ↦ ?_) id).trans ?_
  · cases item <;> simp [Params.number?, Params.invalid]
  · simp

/-- **Limits are read if and only if they are set.** -/
theorem ofParams_eq_ok_iff : ofParams field params = .ok limits ↔ limits.SetBy params := by
  simp only [ofParams, bind_eq_ok_iff, pure_eq_ok_iff, readOptions_eq_ok_iff,
    Params.bound_eq_ok_iff]
  constructor
  · rintro ⟨_, hnames, options, hoptions, min, hmin, max, hmax, rfl⟩
    exact ⟨Params.rejectUnknown_eq_ok_iff.mp hnames, hmin, hmax, hoptions⟩
  · intro h
    exact ⟨(), Params.rejectUnknown_eq_ok_iff.mpr h.names, limits.options, h.options, limits.min,
      h.min, limits.max, h.max, rfl⟩

end NumberLimits

/-! ## Limits of strings -/

namespace TextLimits

variable {field : String} {params : Params} {limits : TextLimits}

/-- The parameters set the limits. Whether case matters may be said without any options. -/
structure SetBy (limits : TextLimits) (params : Params) : Prop where
  names : ∀ name ∈ Entries.keys params, name ∈ paramNames
  regex : params.present? "regex" = limits.pattern.map fun pattern ↦ .string pattern.source
  compiled : ∀ pattern ∈ limits.pattern, TextPattern.compile? pattern.source = some pattern
  caseSensitive : ∃ caseSensitive : Option Bool,
    params.present? "case_sensitive" = caseSensitive.map .bool ∧
      ∀ options ∈ limits.options, options.caseSensitive = caseSensitive.getD true
  options : params.present? "options" =
    limits.options.map fun options ↦ .array (options.declared.map .string)
  min : params.present? "min" = limits.min.map .ofNat
  max : params.present? "max" = limits.max.map .ofNat

theorem source_of_compile? {source : String} {pattern : TextPattern}
    (h : TextPattern.compile? source = some pattern) : pattern.source = source := by
  obtain ⟨compiled, -, rfl⟩ := Option.map_eq_some_iff.mp h
  rfl

theorem readPattern_eq_ok_iff {pattern : Option TextPattern} :
    readPattern field params = .ok pattern ↔
      (params.present? "regex" = pattern.map fun pattern ↦ .string pattern.source) ∧
        ∀ compiled ∈ pattern, TextPattern.compile? compiled.source = some compiled := by
  simp only [readPattern, bind_eq_ok_iff, Params.string_eq_ok_iff]
  constructor
  · rintro ⟨source, hsource, hpattern⟩
    cases source with
    | none =>
      obtain rfl := pure_eq_ok_iff.mp hpattern
      exact ⟨hsource, by simp⟩
    | some source =>
      dsimp only at hpattern
      split at hpattern
      · rename_i compiled hcompiled
        obtain rfl := pure_eq_ok_iff.mp hpattern
        obtain rfl := source_of_compile? hcompiled
        exact ⟨hsource, by simpa using hcompiled⟩
      · cases hpattern
  · rintro ⟨hregex, hcompiled⟩
    cases pattern with
    | none => exact ⟨none, hregex, rfl⟩
    | some pattern =>
      refine ⟨some pattern.source, hregex, ?_⟩
      dsimp only
      rw [hcompiled pattern rfl]
      rfl

theorem readOptions_eq_ok_iff {caseSensitive : Bool} {options : Option TextOptions} :
    readOptions field params caseSensitive = .ok options ↔
      (params.present? "options" =
        options.map fun options ↦ .array (options.declared.map .string)) ∧
        ∀ written ∈ options, written.caseSensitive = caseSensitive := by
  rw [readOptions]
  refine (Params.items_eq_ok_iff .string (fun item text ↦ ?_) fun declared ↦
    (⟨declared, caseSensitive⟩ : TextOptions)).trans ?_
  · cases item <;> simp [Json.asString?, Params.invalid]
  · constructor
    · rintro ⟨declared, hdeclared, rfl⟩
      exact ⟨by rw [hdeclared, Option.map_map]; rfl, by simp⟩
    · rintro ⟨hoptions, hcase⟩
      refine ⟨options.map TextOptions.declared, by rw [hoptions, Option.map_map]; rfl, ?_⟩
      cases options with
      | none => rfl
      | some options => simp [← hcase options rfl]

/-- **Limits are read if and only if they are set.** -/
theorem ofParams_eq_ok_iff : ofParams field params = .ok limits ↔ limits.SetBy params := by
  simp only [ofParams, bind_eq_ok_iff, pure_eq_ok_iff, readPattern_eq_ok_iff,
    readOptions_eq_ok_iff, Params.boolean_eq_ok_iff, Params.count_eq_ok_iff]
  constructor
  · rintro ⟨_, hnames, pattern, ⟨hregex, hcompiled⟩, caseSensitive, hcase, options,
      ⟨hoptions, hsame⟩, min, hmin, max, hmax, rfl⟩
    exact ⟨Params.rejectUnknown_eq_ok_iff.mp hnames, hregex, hcompiled, ⟨caseSensitive, hcase,
      hsame⟩, hoptions, hmin, hmax⟩
  · intro h
    obtain ⟨caseSensitive, hcase, hsame⟩ := h.caseSensitive
    exact ⟨(), Params.rejectUnknown_eq_ok_iff.mpr h.names, limits.pattern,
      ⟨h.regex, h.compiled⟩, caseSensitive, hcase, limits.options, ⟨h.options, hsame⟩, limits.min,
      h.min, limits.max, h.max, rfl⟩

end TextLimits

end DocumentSchema
