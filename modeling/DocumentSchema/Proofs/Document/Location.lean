import DocumentSchema.Json.Value
import DocumentSchema.Proofs.Path.Steps
import Mathlib.Data.List.Nodup

/-!
# Locations

A location of a document is a value of it with the steps that lead there. A template selects
locations, and does so without any index: each of its steps is followed from every location reached
so far, a key step to the member of an object under the key, an element step to every element of a
list in order, and any step from a value of another shape to nothing. The order of the selection is
the order of the document.
-/

namespace DocumentSchema

/-- A value of a document with the steps that lead to it. -/
structure Location where
  steps : List LocationStep
  value : Json

namespace Location

/-- The concrete path of a location. -/
def path (location : Location) : String := Path.concrete location.steps

/-- The locations that a step of a template leads to. -/
def follow (location : Location) : TemplateStep → List Location
  | .member key =>
    match location.value with
    | .object members =>
      match Entries.get? members key with
      | some value => [⟨location.steps ++ [.member key], value⟩]
      | none => []
    | _ => []
  | .element _ =>
    match location.value with
    | .array items =>
      items.mapIdx fun position item ↦ ⟨location.steps ++ [.element position], item⟩
    | _ => []

end Location

namespace Json

/-- The locations of a document that steps from the root lead to. -/
def select (document : Json) (steps : List TemplateStep) : List Location :=
  steps.foldl (fun locations step ↦ locations.flatMap (·.follow step)) [⟨[], document⟩]

@[simp] theorem select_nil (document : Json) : document.select [] = [⟨[], document⟩] := rfl

@[simp] theorem select_append_singleton (document : Json) (steps : List TemplateStep)
    (step : TemplateStep) :
    document.select (steps ++ [step]) = (document.select steps).flatMap (·.follow step) := by
  rw [select, List.foldl_append]
  rfl

mutual

/-- Every key of every object of a tree. -/
def keysWithin : Json → List String
  | array items => keysWithinItems items
  | object members => keysWithinMembers members
  | _ => []

def keysWithinItems : List Json → List String
  | [] => []
  | item :: rest => item.keysWithin ++ keysWithinItems rest

def keysWithinMembers : List (String × Json) → List String
  | [] => []
  | (key, value) :: rest => key :: value.keysWithin ++ keysWithinMembers rest

end

/-- No object of the tree repeats a key, and every key can be written in a path. -/
structure Addressable (document : Json) : Prop where
  keysDistinct : document.KeysDistinct
  isIdentifier : ∀ key ∈ document.keysWithin, Path.IsIdentifier key

theorem addressable_array_cons {item : Json} {rest : List Json}
    (h : (array (item :: rest)).Addressable) : item.Addressable ∧ (array rest).Addressable := by
  obtain ⟨hdistinct, hkeys⟩ := h
  rw [KeysDistinct, KeysDistinctItems] at hdistinct
  rw [keysWithin, keysWithinItems] at hkeys
  exact ⟨⟨hdistinct.1, fun key hkey ↦ hkeys key (List.mem_append_left _ hkey)⟩,
    ⟨hdistinct.2, fun key hkey ↦ hkeys key (List.mem_append_right _ hkey)⟩⟩

theorem addressable_object_cons {key : String} {value : Json} {rest : Members}
    (h : (object ((key, value) :: rest)).Addressable) :
    Path.IsIdentifier key ∧ key ∉ Entries.keys rest ∧ value.Addressable ∧
      (object rest).Addressable := by
  obtain ⟨hdistinct, hkeys⟩ := h
  rw [KeysDistinct, KeysDistinctMembers, Entries.keys_cons, List.nodup_cons] at hdistinct
  rw [keysWithin, keysWithinMembers] at hkeys
  obtain ⟨⟨hkey, hnodup⟩, hvalue, hrest⟩ := hdistinct
  refine ⟨hkeys key (by simp), hkey, ⟨hvalue, fun other hother ↦ hkeys other ?_⟩,
    ⟨⟨hnodup, hrest⟩, fun other hother ↦ hkeys other ?_⟩⟩
  · simp [hother]
  · rw [keysWithin] at hother
    simp [hother]

end Json

/-! ## Steps of selected locations -/

namespace Location

theorem steps_of_mem_follow {location next : Location} {step : TemplateStep}
    (h : next ∈ location.follow step) :
    ∃ last : LocationStep, next.steps = location.steps ++ [last] ∧ last.general = step := by
  cases step with
  | member key =>
    rw [follow] at h
    split at h
    · split at h
      · rw [List.mem_singleton] at h
        exact ⟨.member key, by rw [h], rfl⟩
      · cases h
    · cases h
  | element _ =>
    rw [follow] at h
    split at h
    · obtain ⟨position, _, rfl⟩ := List.mem_mapIdx.mp h
      exact ⟨.element position, rfl, rfl⟩
    · cases h

theorem general_steps_of_mem_select {document : Json} {steps : List TemplateStep}
    {location : Location} (h : location ∈ document.select steps) :
    location.steps.map Step.general = steps := by
  induction steps using List.reverseRecOn generalizing location with
  | nil =>
    rw [Json.select_nil, List.mem_singleton] at h
    rw [h]
    rfl
  | append_singleton steps step ih =>
    rw [Json.select_append_singleton, List.mem_flatMap] at h
    obtain ⟨above, habove, hnext⟩ := h
    obtain ⟨last, hsteps, hgeneral⟩ := steps_of_mem_follow hnext
    rw [hsteps, List.map_append, ih habove, List.map_singleton, hgeneral]

end Location

/-! ## No location is selected twice -/

/-- Parts that can be told apart by a key of what each comes from hold nothing twice together. -/
theorem nodup_flatMap_of_source {α β γ : Type} {list : List α} {part : α → List β} {key : α → γ}
    (source : β → γ) (hkeys : (list.map key).Nodup) (hpart : ∀ a ∈ list, (part a).Nodup)
    (hsource : ∀ a ∈ list, ∀ b ∈ part a, source b = key a) : (list.flatMap part).Nodup := by
  rw [List.nodup_flatMap]
  refine ⟨hpart, (List.pairwise_map.mp hkeys).imp_of_mem fun {first second} hfirst hsecond hne ↦ ?_⟩
  intro b hb hother
  exact hne ((hsource first hfirst b hb).symm.trans (hsource second hsecond b hother))

theorem Location.nodup_follow (location : Location) (step : TemplateStep) :
    ((location.follow step).map (·.steps)).Nodup := by
  cases step with
  | member key =>
    rw [follow]
    split
    · split <;> simp
    · simp
  | element _ =>
    rw [follow]
    split
    · rename_i items _
      have hpositions : (items.mapIdx fun position item ↦
          (⟨location.steps ++ [.element position], item⟩ : Location)).map (·.steps)
            = (List.range items.length).map (location.steps ++ [.element ·]) :=
        List.ext_getElem (by simp) (by simp)
      -- Elements are told apart by their positions, not by their values.
      rw [hpositions]
      refine List.nodup_range.map fun first second heq ↦ ?_
      simpa using heq
    · simp

/-- **A template selects no location twice.** -/
theorem Json.nodup_select (document : Json) (steps : List TemplateStep) :
    ((document.select steps).map (·.steps)).Nodup := by
  induction steps using List.reverseRecOn with
  | nil => simp
  | append_singleton steps step ih =>
    rw [select_append_singleton, List.map_flatMap]
    refine nodup_flatMap_of_source List.dropLast ih (fun location _ ↦ location.nodup_follow step) ?_
    intro location _ route hroute
    obtain ⟨next, hnext, rfl⟩ := List.mem_map.mp hroute
    obtain ⟨last, hsteps, -⟩ := Location.steps_of_mem_follow hnext
    rw [hsteps, List.dropLast_concat]

end DocumentSchema
