import DocumentSchema.Proofs.Check.Parameters
import DocumentSchema.Proofs.Schema.Rules

/-!
# Parameters with the same entries

Parameters stand in an order, and a null may be written where nothing is meant. Neither matters: a
check reads a parameter by its name alone and takes null for nothing, so two lists of parameters
with the same entries but for nulls are refused alike or make the same check. Only a custom check
sees more of its parameters.

The names must be ones that the type takes, for a null under any other name is a fault. That no name
is repeated is how parameters come about: each is put in its place by its name.
-/

namespace DocumentSchema

/-! ## Lists of parameters -/

/-- No name is repeated, and all are among the given ones. -/
structure Params.TakenBy (params : Params) (names : List String) : Prop where
  nodup : (Entries.keys params).Nodup
  names : ∀ name ∈ Entries.keys params, name ∈ names

/-- Both have the same entries, but for nulls and their order. -/
def Params.SameEntries (params other : Params) : Prop :=
  ∀ key value, value.isNull = false → ((key, value) ∈ params ↔ (key, value) ∈ other)

def BaseType.paramNames? : BaseType → Option (List String)
  | any | object | boolean => some []
  | list => some ListLimits.paramNames
  | number | integer => some NumberLimits.paramNames
  | string => some TextLimits.paramNames
  | custom => none

namespace Params

variable {params other : Params} {field key : String}

theorem present?_eq_some_iff (h : (Entries.keys params).Nodup) {value : Json} :
    params.present? key = some value ↔ (key, value) ∈ params ∧ value.isNull = false := by
  rw [present?, Option.filter_eq_some_iff, Entries.mem_iff_get?_eq_some h, Bool.not_eq_true']

theorem SameEntries.present?_eq (h : params.SameEntries other)
    (hparams : (Entries.keys params).Nodup) (hother : (Entries.keys other).Nodup) (key : String) :
    params.present? key = other.present? key := by
  apply Option.ext
  intro value
  rw [present?_eq_some_iff hparams, present?_eq_some_iff hother]
  exact and_congr_left fun hvalue ↦ h key value hvalue

theorem readAs_congr (h : params.present? key = other.present? key) {α : Type} (wanted : String)
    (read : Json → Option α) :
    readAs wanted read field params key = readAs wanted read field other key := by
  rw [readAs, readAs, h]

end Params

/-! ## Limits -/

section Limits

variable {params other : Params} (h : ∀ key, params.present? key = other.present? key)
  (field : String)

include h

theorem ListLimits.ofParams_congr
    (hnames : Params.rejectUnknown field params paramNames =
      Params.rejectUnknown field other paramNames) :
    ofParams field params = ofParams field other := by
  simp only [ofParams, Params.count, hnames, Params.readAs_congr (h _)]

theorem NumberLimits.ofParams_congr
    (hnames : Params.rejectUnknown field params paramNames =
      Params.rejectUnknown field other paramNames) :
    ofParams field params = ofParams field other := by
  simp only [ofParams, readOptions, Params.bound, Params.list, hnames, Params.readAs_congr (h _)]

theorem TextLimits.ofParams_congr
    (hnames : Params.rejectUnknown field params paramNames =
      Params.rejectUnknown field other paramNames) :
    ofParams field params = ofParams field other := by
  simp only [ofParams, readPattern, readOptions, Params.string, Params.boolean, Params.list,
    Params.count, hnames, Params.readAs_congr (h _)]

end Limits

/-! ## Checks and types -/

/-- A check is built from what is set, as long as its type takes all parameters. -/
theorem Check.build_congr {type : BaseType} {names : List String}
    (hnames : type.paramNames? = some names) {params other : Params}
    (hparams : ∀ name ∈ Entries.keys params, name ∈ names)
    (hother : ∀ name ∈ Entries.keys other, name ∈ names)
    (h : ∀ key, params.present? key = other.present? key) (field : String)
    (function : Option CustomCheck) :
    build type field params function = build type field other function := by
  have hreject : Params.rejectUnknown field params names =
      Params.rejectUnknown field other names := by
    rw [Params.rejectUnknown_eq_ok_iff.mpr hparams, Params.rejectUnknown_eq_ok_iff.mpr hother]
  cases type with
  | any | object | boolean =>
    obtain rfl := Option.some.inj hnames
    simp only [build, hreject]
  | list =>
    obtain rfl := Option.some.inj hnames
    exact congrArg (Except.map list) (ListLimits.ofParams_congr h field hreject)
  | number =>
    obtain rfl := Option.some.inj hnames
    exact congrArg (Except.map number) (NumberLimits.ofParams_congr h field hreject)
  | integer =>
    obtain rfl := Option.some.inj hnames
    exact congrArg (Except.map integer) (NumberLimits.ofParams_congr h field hreject)
  | string =>
    obtain rfl := Option.some.inj hnames
    exact congrArg (Except.map text) (TextLimits.ofParams_congr h field hreject)
  | custom => cases hnames

namespace FieldType

variable {type : FieldType} {base : BaseType}

theorem resolve_of_baseType? (h : type.baseType? = some base) (params : Params) (field : String) :
    resolve { type with params } field = (Check.build base field params type.function).map
      fun check ↦ ⟨base, type.nullable, false, check⟩ := by
  obtain ⟨name, hname, hbase⟩ := Option.bind_eq_some_iff.mp h
  simp only [resolve, hname, hbase]
  rfl

/-- **Parameters are a finite map in which null means nothing.** Let a named type that is not custom
be given two lists of parameters that it takes, with the same entries but for nulls and their order.
It is refused with both for one reason, or understood with both; and then the checks find the same,
without failure, about every value at every path. -/
theorem resolve_sameEntries {names : List String} (hbase : type.baseType? = some base)
    (hnames : base.paramNames? = some names) {params other : Params}
    (hparams : params.TakenBy names) (hother : other.TakenBy names)
    (h : params.SameEntries other) (field : String) :
    (∃ error, resolve { type with params } field = .error error ∧
      resolve { type with params := other } field = .error error) ∨
    ∃ resolved resolved', resolve { type with params } field = .ok resolved ∧
      resolve { type with params := other } field = .ok resolved' ∧
      ∀ path value, ∃ finding, resolved.check.run path value = .ok finding ∧
        resolved'.check.run path value = .ok finding := by
  rw [resolve_of_baseType? hbase, resolve_of_baseType? hbase,
    Check.build_congr hnames hparams.names hother.names
      (h.present?_eq hparams.nodup hother.nodup) field]
  cases hbuild : Check.build base field other type.function with
  | error error => exact .inl ⟨error, rfl, rfl⟩
  | ok check =>
    have hcustom : check.type ≠ .custom := by
      rw [Check.type_of_build hbuild]
      rintro rfl
      cases hnames
    refine .inr ⟨_, _, rfl, rfl, fun path value ↦ ?_⟩
    obtain ⟨finding, hfinding⟩ := Check.total_of_ne_custom hcustom path value
    exact ⟨finding, hfinding, hfinding⟩

/-- Another order and two nulls make no difference to a string. -/
theorem resolve_sameEntries_string :
    ∃ resolved resolved', resolve { named "string" with params := [("min", .ofNat 2),
        ("regex", .null), ("options", .array [.string "m"])] } "f" = .ok resolved ∧
      resolve { named "string" with params := [("options", .array [.string "m"]), ("max", .null),
        ("min", .ofNat 2)] } "f" = .ok resolved' ∧
      ∀ path value, ∃ finding, resolved.check.run path value = .ok finding ∧
        resolved'.check.run path value = .ok finding := by
  have hbase : (named "string").baseType? = some .string := rfl
  refine (resolve_sameEntries hbase rfl ⟨by decide, by decide⟩ ⟨by decide, by decide⟩ ?_
    "f").resolve_left ?_
  · intro key value hvalue
    simp only [List.mem_cons, Prod.mk.injEq, List.not_mem_nil, or_false]
    constructor
    · rintro (⟨rfl, rfl⟩ | ⟨rfl, rfl⟩ | ⟨rfl, rfl⟩)
      · exact .inr (.inr ⟨rfl, rfl⟩)
      · cases hvalue
      · exact .inl ⟨rfl, rfl⟩
    · rintro (⟨rfl, rfl⟩ | ⟨rfl, rfl⟩ | ⟨rfl, rfl⟩)
      · exact .inr (.inr ⟨rfl, rfl⟩)
      · cases hvalue
      · exact .inl ⟨rfl, rfl⟩
  · rintro ⟨error, herror, -⟩
    cases herror

end FieldType

end DocumentSchema
