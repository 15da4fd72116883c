import DocumentSchema.FieldType
import DocumentSchema.Proofs.Outcomes

/-!
# Faults of types

What is wrong with the type of a declaration is wrong with its name or with its parameters, and is a
fault of the field that is declared. No check is built from parameters that its type does not take,
and whatever it refuses it refuses in one way.
-/

namespace DocumentSchema

/-- The fault is a parameter of a field. -/
def IsParameterFault (field : String) (error : SchemaError) : Prop :=
  ∃ reason, error = .invalidParameter field reason

namespace Params

variable (field : String) (params : Params)

theorem failsOnly_invalid {α : Type} (reason : String) :
    FailsOnly (IsParameterFault field) (invalid field reason : Except SchemaError α) :=
  failsOnly_error ⟨reason, rfl⟩

theorem failsOnly_rejectUnknown (allowed : List String) :
    FailsOnly (IsParameterFault field) (rejectUnknown field params allowed) := by
  rw [rejectUnknown]
  split
  · exact failsOnly_invalid field _
  · exact failsOnly_ok ()

theorem failsOnly_readAs {α : Type} (wanted : String) (read : Json → Option α) (key : String) :
    FailsOnly (IsParameterFault field) (readAs wanted read field params key) := by
  rw [readAs]
  split
  · exact failsOnly_ok none
  · split
    · exact failsOnly_ok _
    · exact failsOnly_invalid field _

end Params

section Limits

variable (field : String) (params : Params)

theorem ListLimits.failsOnly_ofParams :
    FailsOnly (IsParameterFault field) (ListLimits.ofParams field params) :=
  (Params.failsOnly_rejectUnknown field params _).bind fun _ ↦
    (Params.failsOnly_readAs field params _ _ _).bind fun _ ↦
      (Params.failsOnly_readAs field params _ _ _).bind fun _ ↦ failsOnly_pure _

theorem NumberLimits.failsOnly_readOptions :
    FailsOnly (IsParameterFault field) (NumberLimits.readOptions field params) := by
  refine (Params.failsOnly_readAs field params _ _ _).bind fun items ↦ ?_
  split
  · exact failsOnly_pure none
  · refine (failsOnly_mapM (fun item ↦ ?_) _).bind fun options ↦ failsOnly_pure _
    split
    · exact failsOnly_ok _
    · exact Params.failsOnly_invalid field _

theorem NumberLimits.failsOnly_ofParams :
    FailsOnly (IsParameterFault field) (NumberLimits.ofParams field params) :=
  (Params.failsOnly_rejectUnknown field params _).bind fun _ ↦
    (NumberLimits.failsOnly_readOptions field params).bind fun _ ↦
      (Params.failsOnly_readAs field params _ _ _).bind fun _ ↦
        (Params.failsOnly_readAs field params _ _ _).bind fun _ ↦ failsOnly_pure _

theorem TextLimits.failsOnly_readPattern :
    FailsOnly (IsParameterFault field) (TextLimits.readPattern field params) := by
  refine (Params.failsOnly_readAs field params _ _ _).bind fun source ↦ ?_
  split
  · exact failsOnly_pure none
  · split
    · exact failsOnly_pure _
    · exact Params.failsOnly_invalid field _

theorem TextLimits.failsOnly_readOptions (caseSensitive : Bool) :
    FailsOnly (IsParameterFault field) (TextLimits.readOptions field params caseSensitive) := by
  refine (Params.failsOnly_readAs field params _ _ _).bind fun items ↦ ?_
  split
  · exact failsOnly_pure none
  · refine (failsOnly_mapM (fun item ↦ ?_) _).bind fun declared ↦ failsOnly_pure _
    split
    · exact failsOnly_ok _
    · exact Params.failsOnly_invalid field _

theorem TextLimits.failsOnly_ofParams :
    FailsOnly (IsParameterFault field) (TextLimits.ofParams field params) :=
  (Params.failsOnly_rejectUnknown field params _).bind fun _ ↦
    (TextLimits.failsOnly_readPattern field params).bind fun _ ↦
      (Params.failsOnly_readAs field params _ _ _).bind fun _ ↦
        (TextLimits.failsOnly_readOptions field params _).bind fun _ ↦
          (Params.failsOnly_readAs field params _ _ _).bind fun _ ↦
            (Params.failsOnly_readAs field params _ _ _).bind fun _ ↦ failsOnly_pure _

end Limits

theorem Check.failsOnly_build (type : BaseType) (field : String) (params : Params)
    (function : Option CustomCheck) :
    FailsOnly (IsParameterFault field) (Check.build type field params function) := by
  rw [Check.build.eq_def]
  cases type with
  | any | object | boolean =>
    exact (Params.failsOnly_rejectUnknown field params []).bind fun _ ↦ failsOnly_pure _
  | list => exact (ListLimits.failsOnly_ofParams field params).map _
  | number | integer => exact (NumberLimits.failsOnly_ofParams field params).map _
  | string => exact (TextLimits.failsOnly_ofParams field params).map _
  | custom =>
    rcases function with _ | function
    · exact Params.failsOnly_invalid field _
    · exact failsOnly_ok _

/-- The fault is the name of a type or a parameter of a field. -/
def IsTypeFault (field : String) (error : SchemaError) : Prop :=
  (∃ name, error = .unknownType field name) ∨ IsParameterFault field error

/-- **What is wrong with a type is its name or a parameter.** -/
theorem FieldType.failsOnly_resolve (type : FieldType) (field : String) :
    FailsOnly (IsTypeFault field) (type.resolve field) := by
  have hcheck (base : BaseType) (implicit : Bool) : FailsOnly (IsTypeFault field) (do
      let check ← Check.build base field type.params type.function
      return (⟨base, type.nullable, implicit, check⟩ : ResolvedType)) :=
    FailsOnly.bind (fun error h ↦ .inr (Check.failsOnly_build base field _ _ error h))
      fun check ↦ failsOnly_pure _
  rw [resolve]
  split
  · exact hcheck .any true
  · split
    · rename_i base hbase
      exact hcheck base false
    · exact failsOnly_error (.inl ⟨_, rfl⟩)

end DocumentSchema
