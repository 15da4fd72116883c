import DocumentSchema.Proofs.Check.NumberVerdict

/-!
# Integers under limits of integers

Limits that are written as integers have a verdict of their own, in exact arithmetic. The check goes
by floats instead, and large integers share theirs. Since rounding is monotone, an integer that is
admitted exactly is admitted by the check, whatever the size of the integers: the check can be too
lax, never too strict. As long as no integer is larger than `2^53`, each is its own float, and the
check finds exactly what is to be found.
-/

namespace DocumentSchema

/-- The integers that are their own floats, as far as they stand together. -/
def exactIntegers : Set Int := {n | n.natAbs ≤ 2 ^ 53}

/-- Beyond them, neighbours share a float. -/
example : unitsOfInt (2 ^ 53 + 1) = unitsOfInt (2 ^ 53) := by decide +kernel

namespace Limits

def written (limits : Limits Int) : NumberLimits where
  min := limits.min.map .integer
  max := limits.max.map .integer
  options := limits.options.map (·.map .integer)

theorem values_written (limits : Limits Int) : limits.written.values = limits.map unitsOfInt := by
  obtain ⟨min, max, options⟩ := limits
  simp only [written, NumberLimits.values, map, Option.map_map, mk.injEq]
  refine ⟨rfl, rfl, ?_⟩
  congr 1
  funext options
  exact List.map_map

variable {limits : Limits Int} {v : Int}

theorem finds_check_written (limits : Limits Int) (path : String) (v : Int) :
    (limits.map unitsOfInt).Finds (unitsOfInt v)
      ((limits.written.check path (.integer v)).map Message.kind) := by
  rw [← values_written]
  exact limits.written.finds_check path (.integer v)

theorem Admits.check_written (h : limits.Admits v) (path : String) :
    limits.written.check path (.integer v) = none := by
  have himage : (limits.map unitsOfInt).Admits (unitsOfInt v) := h.map fun _ _ ↦ unitsOfInt_le
  have hnone := (finds_check_written limits path v).unique (.nothing himage)
  exact Option.map_eq_none_iff.mp hnone

theorem Within.finds_check (hlimits : limits.Within exactIntegers) (hv : v ∈ exactIntegers)
    (path : String) :
    limits.Finds v ((limits.written.check path (.integer v)).map Message.kind) := by
  -- Something is to be found; its image is what the check finds, and there is only one.
  obtain ⟨kind, hkind⟩ := limits.exists_finds v
  have himage := hkind.map (fun _ hn _ hm ↦ unitsOfInt_lt hn hm) hlimits hv
  rw [(finds_check_written limits path v).unique himage]
  exact hkind

end Limits

namespace Check

variable {params : Params} {limits : Limits Int} {type : BaseType}

/-- **The check of integers is never too strict, and exact where no integer is large.** Let the
limits of a type for numbers or whole numbers be written as integers. What they admit in exact
arithmetic passes; and if they and the value are at most `2^53` in size, the kind of finding is that
of exact arithmetic. -/
theorem build_exact (htype : type = .number ∨ type = .integer) (h : limits.written.SetBy params)
    (field : String) (function : Option CustomCheck) :
    ∃ check, build type field params function = .ok check ∧ ∀ path v,
      (limits.Admits v → check.run path (.number (.integer v)) = .ok none) ∧
      (limits.Within exactIntegers → v ∈ exactIntegers → ∃ finding,
        check.run path (.number (.integer v)) = .ok finding ∧
          limits.Finds v (finding.map Message.kind)) := by
  have hbuild : ∃ check, build type field params function = .ok check ∧ ∀ path v,
      check.run path (.number (.integer v)) = .ok (limits.written.check path (.integer v)) := by
    rcases htype with rfl | rfl
    · exact ⟨number limits.written, build_number_eq_ok_iff.mpr ⟨_, h, rfl⟩, fun _ _ ↦ rfl⟩
    · exact ⟨integer limits.written, build_integer_eq_ok_iff.mpr ⟨_, h, rfl⟩, fun _ _ ↦ rfl⟩
  obtain ⟨check, hcheck, hrun⟩ := hbuild
  refine ⟨check, hcheck, fun path v ↦ ⟨fun hadmits ↦ ?_, fun hlimits hv ↦ ?_⟩⟩
  · rw [hrun, hadmits.check_written]
  · exact ⟨_, hrun path v, hlimits.finds_check hv path⟩

/-- A lower bound of `2^53` is kept to exactly from below, and no larger integer is refused. -/
theorem build_exact_lowerBound :
    ∃ check, build .integer "f" [("min", .number (.integer 9007199254740992))] none = .ok check ∧
      check.run "f" (.number (.integer 18446744073709551615)) = .ok none ∧
      ∃ finding, check.run "f" (.number (.integer 9007199254740991)) = .ok finding ∧
        finding.map Message.kind = some Message.Kind.numberTooSmall := by
  have hset : (⟨some 9007199254740992, none, none⟩ : Limits Int).written.SetBy
      [("min", .number (.integer 9007199254740992))] :=
    ⟨by decide, rfl, rfl, rfl⟩
  obtain ⟨check, hcheck, hrun⟩ := build_exact (.inr rfl) hset "f" none
  refine ⟨check, hcheck, (hrun "f" _).1 (.inr ⟨by simp, by simp, .inr rfl⟩), ?_⟩
  obtain ⟨finding, hfinding, hfinds⟩ := (hrun "f" 9007199254740991).2
    ⟨by simp [exactIntegers], by simp, by simp⟩ (by simp [exactIntegers])
  refine ⟨finding, hfinding, hfinds.unique (.tooSmall ?_ ⟨_, rfl, by decide⟩)⟩
  simp [Limits.Admits]

end Check

end DocumentSchema
