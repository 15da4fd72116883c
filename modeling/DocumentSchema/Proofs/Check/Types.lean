import DocumentSchema.Check.Basic
import DocumentSchema.Proofs.Outcomes

/-!
# Checks by their types

A check shows its type. What it can do follows from that: a check for anything finds nothing, a
check for a container refuses every other shape, and all but the functions supplied from outside
never fail and have findings of a few kinds only.
-/

namespace DocumentSchema

namespace Check

variable {check : Check}

def type : Check → BaseType
  | any => .any
  | object => .object
  | boolean => .boolean
  | list _ => .list
  | number _ => .number
  | integer _ => .integer
  | text _ => .string
  | custom _ _ => .custom

/-! ## Building -/

theorem eq_object_of_type {check : Check} (h : check.type = .object) : check = .object := by
  cases check with
  | object => rfl
  | any | boolean | list _ | number _ | integer _ | text _ | custom _ _ => cases h

theorem type_of_build {type : BaseType} {field : String} {params : Params}
    {function : Option CustomCheck} {check : Check}
    (h : build type field params function = .ok check) : check.type = type := by
  cases type with
  | any | object | boolean =>
    simp only [build, bind_eq_ok_iff, pure_eq_ok_iff] at h
    obtain ⟨_, _, rfl⟩ := h
    rfl
  | list | number | integer | string =>
    simp only [build.eq_def] at h
    obtain ⟨limits, -, rfl⟩ := map_eq_ok_iff.mp h
    rfl
  | custom =>
    rw [build.eq_def] at h
    cases function with
    | none => cases h
    | some function =>
      obtain rfl := Except.ok.inj h
      rfl

theorem eq_custom_of_build {type : BaseType} {field : String} {params : Params}
    {function : Option CustomCheck} {check : Check}
    (h : build type field params function = .ok check) (hcustom : check.type = .custom) :
    ∃ supplied, function = some supplied ∧ check = .custom supplied params := by
  obtain rfl := (type_of_build h).symm.trans hcustom
  rw [build.eq_def] at h
  cases function with
  | none => cases h
  | some supplied => exact ⟨supplied, rfl, (Except.ok.inj h).symm⟩

/-! ## Running -/

def Total (check : Check) : Prop :=
  ∀ path value, ∃ finding, check.run path value = .ok finding

theorem run_of_any (h : check.type = .any) (path : String) (value : Json) :
    check.run path value = .ok none := by
  cases check with
  | any => rfl
  | object | boolean | list _ | number _ | integer _ | text _ | custom _ _ => cases h

theorem total_of_ne_custom (h : check.type ≠ .custom) : check.Total := by
  cases check with
  | custom function params => exact absurd rfl h
  | any | object | boolean | list _ | number _ | integer _ | text _ => exact fun _ _ ↦ ⟨_, rfl⟩

/-! ## Findings -/

/-- The kinds of findings of the checks that are not supplied from outside. -/
def kinds : List String :=
  [Message.Kind.invalidType, Message.Kind.tooFewElements, Message.Kind.tooManyElements,
    Message.Kind.numberTooSmall, Message.Kind.numberTooLarge, Message.Kind.invalidNumberOption,
    Message.Kind.noMatch, Message.Kind.invalidStringOption, Message.Kind.stringTooShort,
    Message.Kind.stringTooLong]

/-- A finding of a check at a path: of one of the kinds, about the path, with an expectation. -/
def IsFinding (path : String) (message : Message) : Prop :=
  ∃ kind ∈ kinds, ∃ expected, message = (Message.new kind path).withExpected expected

variable {message : Message} {path : String}

theorem IsFinding.kind_mem (h : IsFinding path message) : message.kind ∈ kinds := by
  obtain ⟨kind, hkind, expected, rfl⟩ := h
  exact hkind

theorem IsFinding.field_eq (h : IsFinding path message) : message.field = path := by
  obtain ⟨kind, -, expected, rfl⟩ := h
  rfl

theorem isFinding_invalidType (path expected : String) :
    IsFinding path (Message.invalidType path expected) := ⟨_, by simp [kinds], _, rfl⟩

theorem isFinding_of_listLimits {limits : ListLimits} {count : Nat}
    (h : limits.check path count = some message) : IsFinding path message := by
  rw [ListLimits.check] at h
  split at h
  · exact ⟨_, by simp [kinds], _, (Option.some.inj h).symm⟩
  · split at h
    · exact ⟨_, by simp [kinds], _, (Option.some.inj h).symm⟩
    · cases h

theorem isFinding_of_numberLimits {limits : NumberLimits} {number : Number}
    (h : limits.check path number = some message) : IsFinding path message := by
  rw [NumberLimits.check] at h
  split at h
  · cases h
  · split at h
    · exact ⟨_, by simp [kinds], _, (Option.some.inj h).symm⟩
    · split at h
      · exact ⟨_, by simp [kinds], _, (Option.some.inj h).symm⟩
      · exact ⟨_, by simp [kinds], _, (Option.some.inj h).symm⟩

theorem findingKind_mem_kinds (limits : TextLimits) (text : String) :
    limits.findingKind text ∈ kinds := by
  rw [TextLimits.findingKind]
  split
  · simp [kinds]
  · split
    · simp [kinds]
    · split <;> simp [kinds]

theorem isFinding_of_textLimits {limits : TextLimits} {text : String}
    (h : limits.check path text = some message) : IsFinding path message := by
  rw [TextLimits.check] at h
  split at h
  · cases h
  · exact ⟨_, findingKind_mem_kinds limits text, _, (Option.some.inj h).symm⟩

/-- **What a check finds is a finding about the value that it checks.** -/
theorem isFinding_of_run (h : check.type ≠ .custom) {value : Json}
    (hrun : check.run path value = .ok (some message)) : IsFinding path message := by
  have hwrong : ∀ {expected : String}, some (Message.invalidType path expected) = some message →
      IsFinding path message := by
    intro expected heq
    rw [← Option.some.inj heq]
    exact isFinding_invalidType path expected
  cases check with
  | custom function params => exact absurd rfl h
  | any => cases hrun
  | object =>
    cases value with
    | object members => cases hrun
    | null | bool _ | number _ | string _ | array _ => exact hwrong (Except.ok.inj hrun)
  | boolean =>
    cases value with
    | bool value => cases hrun
    | null | number _ | string _ | array _ | object _ => exact hwrong (Except.ok.inj hrun)
  | list limits =>
    cases value with
    | array items => exact isFinding_of_listLimits (Except.ok.inj hrun)
    | null | bool _ | number _ | string _ | object _ => exact hwrong (Except.ok.inj hrun)
  | number limits =>
    cases value with
    | number number => exact isFinding_of_numberLimits (Except.ok.inj hrun)
    | null | bool _ | string _ | array _ | object _ => exact hwrong (Except.ok.inj hrun)
  | integer limits =>
    cases value with
    | number number =>
      -- A number that is no integer is of the wrong type, whatever its size.
      have hfound := Except.ok.inj hrun
      rw [checkInteger] at hfound
      split at hfound
      · exact isFinding_of_numberLimits hfound
      · exact hwrong hfound
    | null | bool _ | string _ | array _ | object _ => exact hwrong (Except.ok.inj hrun)
  | text limits =>
    cases value with
    | string text => exact isFinding_of_textLimits (Except.ok.inj hrun)
    | null | bool _ | number _ | array _ | object _ => exact hwrong (Except.ok.inj hrun)

end Check

end DocumentSchema
