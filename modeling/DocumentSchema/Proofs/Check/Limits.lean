import Mathlib.Data.Set.Monotone
import Mathlib.Data.Option.Basic

/-!
# Limits in an order

Bounds and options make sense in any order: a value is admitted if it is one of the options, or if
it lies within the bounds, where options without a bound leave nothing else. What is admitted stays
admitted along a monotone function, since it can make values equal but not move one past another,
and along a strictly monotone one nothing changes at all.
-/

namespace DocumentSchema

/-- Bounds and options in an ordered type. -/
structure Limits (α : Type) where
  min : Option α
  max : Option α
  options : Option (List α)

namespace Limits

variable {α β : Type}

def HasBound (limits : Limits α) : Prop := limits.min ≠ none ∨ limits.max ≠ none

/-- The limits with every value sent along a function. -/
def map (f : α → β) (limits : Limits α) : Limits β where
  min := limits.min.map f
  max := limits.max.map f
  options := limits.options.map (·.map f)

/-- All values of the limits belong to a set. -/
structure Within (limits : Limits α) (set : Set α) : Prop where
  min : ∀ min ∈ limits.min, min ∈ set
  max : ∀ max ∈ limits.max, max ∈ set
  options : ∀ options ∈ limits.options, ∀ option ∈ options, option ∈ set

@[simp] theorem hasBound_map {f : α → β} {limits : Limits α} :
    (limits.map f).HasBound ↔ limits.HasBound := by
  simp [HasBound, map]

section Order

variable [LinearOrder α] [LinearOrder β] {limits : Limits α} {a : α}

def Below (limits : Limits α) (a : α) : Prop := ∃ min ∈ limits.min, a < min

def Above (limits : Limits α) (a : α) : Prop := ∃ max ∈ limits.max, max < a

/-- The value is one of the options, or it lies within the bounds and these are not missing beside
options. -/
def Admits (limits : Limits α) (a : α) : Prop :=
  (∃ options ∈ limits.options, a ∈ options) ∨
    (∀ min ∈ limits.min, min ≤ a) ∧ (∀ max ∈ limits.max, a ≤ max) ∧
      (limits.HasBound ∨ limits.options = none)

theorem not_below_iff : ¬limits.Below a ↔ ∀ min ∈ limits.min, min ≤ a := by
  simp [Below]

theorem not_above_iff : ¬limits.Above a ↔ ∀ max ∈ limits.max, a ≤ max := by
  simp [Above]

theorem Below.hasBound (h : limits.Below a) : limits.HasBound := by
  obtain ⟨min, hmin, -⟩ := h
  exact .inl (Option.ne_none_iff_exists'.mpr ⟨min, hmin⟩)

theorem Above.hasBound (h : limits.Above a) : limits.HasBound := by
  obtain ⟨max, hmax, -⟩ := h
  exact .inr (Option.ne_none_iff_exists'.mpr ⟨max, hmax⟩)

/-- A value within bounds is not admitted only for want of a bound beside options. -/
theorem of_not_admits (h : ¬limits.Admits a) (hbelow : ¬limits.Below a) (habove : ¬limits.Above a) :
    ¬limits.HasBound ∧ limits.options ≠ none := by
  rw [not_below_iff] at hbelow
  rw [not_above_iff] at habove
  rw [Admits, not_or] at h
  exact not_or.mp fun hset ↦ h.2 ⟨hbelow, habove, hset⟩

/-! ## Along a function -/

/-- What is admitted is admitted after a monotone function, which may make values equal but never
moves one past another. -/
theorem Admits.map {f : α → β} (hf : Monotone f) (h : limits.Admits a) :
    (limits.map f).Admits (f a) := by
  rcases h with ⟨options, hoptions, hmem⟩ | ⟨hmin, hmax, hset⟩
  · exact .inl ⟨options.map f, Option.mem_map_of_mem _ hoptions, List.mem_map_of_mem hmem⟩
  · refine .inr ⟨?_, ?_, ?_⟩
    · intro bound hbound
      obtain ⟨min, hmem, rfl⟩ := Option.mem_map.mp hbound
      exact hf (hmin min hmem)
    · intro bound hbound
      obtain ⟨max, hmem, rfl⟩ := Option.mem_map.mp hbound
      exact hf (hmax max hmem)
    · exact hset.imp hasBound_map.mpr fun hnone ↦ by rw [Limits.map, hnone, Option.map_none]

section StrictMonoOn

variable {f : α → β} {set : Set α} (hf : StrictMonoOn f set) (hlimits : limits.Within set)
  (ha : a ∈ set)

include hf hlimits ha

theorem below_map_iff : (limits.map f).Below (f a) ↔ limits.Below a := by
  constructor
  · rintro ⟨bound, hbound, hlt⟩
    obtain ⟨min, hmem, rfl⟩ := Option.mem_map.mp hbound
    exact ⟨min, hmem, (hf.lt_iff_lt ha (hlimits.min min hmem)).mp hlt⟩
  · rintro ⟨min, hmem, hlt⟩
    exact ⟨f min, Option.mem_map_of_mem _ hmem, hf ha (hlimits.min min hmem) hlt⟩

theorem above_map_iff : (limits.map f).Above (f a) ↔ limits.Above a := by
  constructor
  · rintro ⟨bound, hbound, hlt⟩
    obtain ⟨max, hmem, rfl⟩ := Option.mem_map.mp hbound
    exact ⟨max, hmem, (hf.lt_iff_lt (hlimits.max max hmem) ha).mp hlt⟩
  · rintro ⟨max, hmem, hlt⟩
    exact ⟨f max, Option.mem_map_of_mem _ hmem, hf (hlimits.max max hmem) ha hlt⟩

theorem option_map_iff : (∃ options ∈ (limits.map f).options, f a ∈ options) ↔
    ∃ options ∈ limits.options, a ∈ options := by
  constructor
  · rintro ⟨images, himages, hmem⟩
    obtain ⟨options, hoptions, rfl⟩ := Option.mem_map.mp himages
    obtain ⟨option, hoption, heq⟩ := List.mem_map.mp hmem
    obtain rfl := hf.injOn (hlimits.options options hoptions option hoption) ha heq
    exact ⟨options, hoptions, hoption⟩
  · rintro ⟨options, hoptions, hmem⟩
    exact ⟨options.map f, Option.mem_map_of_mem _ hoptions, List.mem_map_of_mem hmem⟩

theorem admits_map_iff : (limits.map f).Admits (f a) ↔ limits.Admits a := by
  have hnone : (limits.map f).options = none ↔ limits.options = none := Option.map_eq_none_iff
  rw [Admits, Admits, option_map_iff hf hlimits ha, ← not_below_iff, ← not_below_iff,
    ← not_above_iff, ← not_above_iff, below_map_iff hf hlimits ha, above_map_iff hf hlimits ha,
    hasBound_map, hnone]

end StrictMonoOn

end Order

end Limits

end DocumentSchema
