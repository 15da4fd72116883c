import DocumentSchema.Proofs.Path.Grammar
import DocumentSchema.Proofs.Schema.Contradiction

/-!
# Going up from a path

Paths are taken apart from the end in two places. `splitLast?` gives the path above and the last
step; the walk of a declaration finds the container of a path with code of its own, because it also
wants to know the kind of container. Both look at characters only and say something of every text.
On a path of the grammar both undo the last step down, and what they leave is again a path of the
grammar, so that they can be applied once more.

## How long a walk is

The walk goes on until it comes to the root. The length of the path does not measure this, since a
key of one character and the root above it are texts of the same length. What each turn takes away
is one step, and a path of the grammar has one for each key and one for each marker.
-/

namespace DocumentSchema

open DocumentSchema.Path

variable {path : String} {parsed : List Segment}

/-! ## Counting steps -/

namespace Path

/-- The number of keys and markers: each segment has one key and as many markers as it says. -/
def stepCount : List Segment → Nat
  | [] => 0
  | segment :: rest => 1 + segment.listDepth + stepCount rest

theorem length_steps_foldl_downSegment (path : String)
    (hkeys : ∀ segment ∈ parsed, IsIdentifier segment.key) :
    (steps (parsed.foldl downSegment path)).length = (steps path).length + stepCount parsed := by
  induction parsed generalizing path with
  | nil => rfl
  | cons segment rest ih =>
    obtain ⟨hkey, hrest⟩ := List.forall_mem_cons.mp hkeys
    have hsegment := congrArg List.length (steps_downSegment path hkey)
    rw [List.length_append, List.length_cons, List.length_replicate] at hsegment
    rw [List.foldl_cons, ih _ hrest, hsegment, stepCount]
    omega

/-- **A path of the grammar has one step for each key and each marker.** -/
theorem length_steps_of_segments (h : segments path = .ok parsed) :
    (steps path).length = stepCount parsed := by
  by_cases hroot : isRoot path = true
  · rw [segments, if_pos hroot] at h
    obtain rfl := Except.ok.inj h
    rcases (isRoot_iff path).mp hroot with rfl | rfl
    · rw [steps, readSteps_empty]
      rfl
    · rw [steps_root]
      rfl
  · rw [Bool.not_eq_true] at hroot
    obtain ⟨hne, hkeys, rfl⟩ := (segments_eq_ok_iff hroot).mp h
    rw [← built_eq_written hne hkeys, built, length_steps_foldl_downSegment root hkeys, steps_root,
      List.length_nil, Nat.zero_add]

theorem getLast?_upwards (path : String) : (upwards path).getLast? = some root := by
  rw [upwards, List.getLast?_map, List.getLast?_reverse]
  rcases steps path with _ | ⟨first, rest⟩ <;> rfl

end Path

/-! ## The turns of a walk -/

/-- Each turn takes one step away, and there are no turns but those. -/
theorem length_containersAbove (h : IsTemplate path) (fuel : Nat) (strictness : Strictness) :
    (containersAbove fuel path strictness).length = min fuel (steps path).length := by
  induction h generalizing fuel strictness with
  | root =>
    rw [containersAbove_of_isRoot isRoot_root, steps_root]
    exact (Nat.min_zero fuel).symm
  | @down parent step hparent hstep ih =>
    rcases fuel with _ | fuel
    · rw [containersAbove, List.length_nil, Nat.zero_min]
    · rw [containersAbove, containerStep?_down hparent hstep, List.length_cons, ih,
        steps_down parent hstep, List.length_append, List.length_singleton, Nat.add_min_add_right]

/-- Fuel that is left over when the root is reached changes nothing. -/
theorem containersAbove_of_le (h : IsTemplate path) {fuel : Nat}
    (hfuel : (steps path).length ≤ fuel) (strictness : Strictness) :
    containersAbove fuel path strictness
      = containersAbove (steps path).length path strictness := by
  induction h generalizing fuel strictness with
  | root => rw [containersAbove_of_isRoot isRoot_root, containersAbove_of_isRoot isRoot_root]
  | @down parent step hparent hstep ih =>
    rw [steps_down parent hstep, List.length_append, List.length_singleton] at hfuel ⊢
    obtain ⟨rest, rfl⟩ : ∃ rest, fuel = rest + 1 := ⟨fuel - 1, by omega⟩
    rw [containersAbove, containersAbove, containerStep?_down hparent hstep]
    exact congrArg _ (ih (by omega) _)

theorem getLast?_containersAbove (h : IsTemplate path) (hroot : isRoot path = false)
    (strictness : Strictness) :
    ((containersAbove (steps path).length path strictness).getLast?.map (·.path)) = some root := by
  have hupwards := map_path_containersAbove h (Nat.le_refl _) strictness
  have hlast := getLast?_upwards path
  rw [← hupwards, List.getLast?_cons, List.getLast?_map] at hlast
  rcases hturns : (containersAbove (steps path).length path strictness).getLast? with _ | demand
  · -- Without a turn the path itself would be the last one.
    rw [hturns, Option.map_none, Option.getD_none] at hlast
    rw [Option.some.inj hlast, isRoot_root] at hroot
    cases hroot
  · rw [hturns, Option.map_some, Option.getD_some] at hlast
    exact hlast

/-! ## One step up -/

/-- Both ways of going up from a path lead to the path above, and say what was left behind. -/
structure LeadsUp (path above last : String) : Prop where
  split : splitLast? path = some (above, last)
  parent : parent? path = some above
  /-- The path above is one of the grammar, -/
  readable : ∃ parsed, segments above = .ok parsed
  /-- a path that ends with a marker is that of the elements there, -/
  element : isListTemplate path = true → last = listMarker ∧ element above = path
  /-- and any other that of a member there. -/
  member : isListTemplate path = false → IsIdentifier last ∧ child above last = path
  /-- A walk comes to the same path, which is a list exactly where a marker was left behind. -/
  container : ∀ strictness, ∃ kind passed,
    containerStep? path strictness = some (above, kind, passed) ∧ (kind = .list ↔ last = listMarker)

theorem leadsUp_element (h : IsTemplate path) (hread : ∃ parsed, segments path = .ok parsed) :
    LeadsUp (element path) path listMarker where
  split := splitLast?_element h
  parent := parent?_down h (show Step.IsWritable (.element ()) from trivial)
  readable := hread
  element _ := ⟨rfl, rfl⟩
  member hmember := by
    rw [isListTemplate_element] at hmember
    cases hmember
  container strictness := by
    have hstep : (.element () : TemplateStep).IsWritable := trivial
    refine ⟨.list, _, containerStep?_down h hstep strictness, ?_⟩
    simp

theorem leadsUp_child (h : IsTemplate path) (hread : ∃ parsed, segments path = .ok parsed)
    {key : String} (hkey : IsIdentifier key) : LeadsUp (child path key) path key where
  split := splitLast?_child h hkey
  parent := parent?_down h (show Step.IsWritable (.member key) from hkey)
  readable := hread
  element helement := by
    rw [isListTemplate_child path hkey] at helement
    cases helement
  member _ := ⟨hkey, rfl⟩
  container strictness := by
    have hstep : (.member key : TemplateStep).IsWritable := hkey
    refine ⟨.object, _, containerStep?_down h hstep strictness, ?_⟩
    -- A key that is written like a marker is no identifier.
    have hmarker : key ≠ listMarker := by
      rintro rfl
      exact hkey.open_notMem (by decide)
    simp [hmarker]

theorem exists_leadsUp (h : segments path = .ok parsed) (hroot : isRoot path = false) :
    ∃ above last, LeadsUp path above last := by
  have hne : path ≠ "" := by
    rintro rfl
    cases hroot
  have hhead := head?_steps_of_segments h hne
  have htemplate := isTemplate_of_segments h hne
  induction htemplate with
  | root => cases hroot
  | @down parent step hparent hstep _ =>
    have hread := hparent.exists_segments (head?_steps_of_down hstep hhead)
    rcases step with key | index
    · exact ⟨parent, key, leadsUp_child hparent hread hstep⟩
    · exact ⟨parent, listMarker, leadsUp_element hparent hread⟩

/-! ## All the way up -/

/-- The walk of a declaration goes up from a path in so many turns. -/
structure Ascends (path : String) (turns : Nat) : Prop where
  /-- The turns are as many as there is fuel for, up to that number and never more. -/
  length : ∀ fuel strictness, (containersAbove fuel path strictness).length = min fuel turns
  /-- A declaration has fuel for all of them, -/
  walk : ∀ type strictness,
    ⟨path, strictness, .declared type⟩ :: containersAbove turns path strictness
      <:+ DocumentSchema.walk path type strictness
  /-- and they end at the root. -/
  ends : isRoot path = false → ∀ strictness,
    (containersAbove turns path strictness).getLast?.map (·.path) = some root

theorem ascends_of_isTemplate (h : IsTemplate path) : Ascends path (steps path).length where
  length fuel strictness := length_containersAbove h fuel strictness
  walk type strictness := by
    have hfuel : (steps path).length ≤ path.length + 1 := Nat.le_succ_of_le h.length_steps_le
    rw [← containersAbove_of_le h hfuel, DocumentSchema.walk]
    exact List.suffix_append _ _
  ends hroot strictness := getLast?_containersAbove h hroot strictness

theorem ascends_of_isRoot (h : isRoot path = true) : Ascends path 0 where
  length fuel strictness := by
    rw [containersAbove_of_isRoot h]
    exact (Nat.min_zero fuel).symm
  walk type strictness := by
    rw [containersAbove_of_isRoot h, DocumentSchema.walk, containersAbove_of_isRoot h]
    exact List.suffix_append _ _
  ends hroot := by
    rw [h] at hroot
    cases hroot

/-- **Going up undoes going down**, wherever it is done. Above the root there is nothing. Any other
path of the grammar is split into a path of the grammar and the step that leads back from there, and
a walk goes to the same path. So a walk ends, after one turn for each key and each marker, at the
root. -/
theorem up_undoes_down (h : segments path = .ok parsed) :
    (isRoot path = true → splitLast? path = none ∧ parent? path = none ∧
      ∀ strictness, containerStep? path strictness = none) ∧
      (isRoot path = false → ∃ above last, LeadsUp path above last) ∧
      Ascends path (stepCount parsed) := by
  refine ⟨fun hroot ↦ ?_, fun hroot ↦ exists_leadsUp h hroot, ?_⟩
  · have hsplit : splitLast? path = none := if_pos hroot
    exact ⟨hsplit, by rw [parent?, hsplit, Option.map_none], containerStep?_of_isRoot hroot⟩
  · rw [← length_steps_of_segments h]
    by_cases hempty : path = ""
    · -- The other spelling of the root is no template, and has no steps either.
      rw [hempty, steps, readSteps_empty]
      exact ascends_of_isRoot isRoot_empty
    · exact ascends_of_isTemplate (isTemplate_of_segments h hempty)

/-- A list of lists below a list, under a key of one character. -/
theorem up_undoes_down_lists :
    let path := "u[].ключ[][]"
    segments path = .ok [⟨"u", 1⟩, ⟨"ключ", 2⟩] ∧ LeadsUp path "u[].ключ[]" "[]" ∧
      Ascends path 5 := by
  intro path
  have hread : segments path = .ok [⟨"u", 1⟩, ⟨"ключ", 2⟩] := by decide
  obtain ⟨-, hup, hascends⟩ := up_undoes_down hread
  obtain ⟨above, last, habove⟩ := hup (by decide)
  have hsplit : splitLast? path = some ("u[].ключ[]", "[]") := by decide
  obtain ⟨rfl, rfl⟩ := Prod.mk.inj (Option.some.inj (hsplit.symm.trans habove.split))
  exact ⟨hread, habove, hascends⟩

end DocumentSchema
