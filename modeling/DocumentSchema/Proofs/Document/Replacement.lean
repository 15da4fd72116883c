import DocumentSchema.Proofs.Document.Descent

/-!
# Replacing a part of a document

`Json.replace` puts another value at a location of a document. Every location that is neither above
nor below keeps its value, and a value above keeps its shape: an object has the same keys as before
and a list the same length.

Whoever goes over the locations of the document, looks away from the one that is replaced and from
all below it, and sees nothing of a value but its shape, cannot tell the two documents apart. This
is `BlindTo.flatMap_locations_replace`, and all that is ever needed to show that something does not
depend on a part of a document.
-/

namespace DocumentSchema

variable {document value old : Json} {steps : List LocationStep}

namespace Json

/-! ## Shape -/

/-- The values differ in their children at most, and have them under the same steps. -/
inductive SameShape : Json → Json → Prop
  | refl (value : Json) : SameShape value value
  | object {first second : Members} :
      Entries.keys first = Entries.keys second → SameShape (object first) (object second)
  | array {first second : List Json} :
      first.length = second.length → SameShape (array first) (array second)

namespace SameShape

variable {first second : Json}

theorem isNull_eq (h : SameShape first second) : first.isNull = second.isNull := by
  cases h <;> rfl

end SameShape

/-! ## One child -/

def changeChild (change : Json → Json) (step : LocationStep) : Json → Json
  | object members => object <| members.map fun (key, value) ↦
      (key, if step = .member key then change value else value)
  | array items => array <| items.mapIdx fun position item ↦
      if step = .element position then change item else item
  | value => value

variable {change : Json → Json} {step : LocationStep}

theorem sameShape_changeChild (value : Json) : SameShape (value.changeChild change step) value := by
  cases value with
  | object members => exact .object (by simp [Entries.keys])
  | array items => exact .array (by simp)
  | null | bool _ | number _ | string _ => exact .refl _

theorem children_changeChild (value : Json) :
    (value.changeChild change step).children = value.children.map fun child ↦
      (child.1, if step = child.1 then change child.2 else child.2) := by
  cases value with
  | object members => simp [changeChild, children]
  | array items =>
    exact List.ext_getElem (by simp [changeChild, children]) (by simp [changeChild, children])
  | null | bool _ | number _ | string _ => rfl

theorem child?_changeChild (value : Json) (other : LocationStep) :
    (value.changeChild change step).child? other
      = (value.child? other).map fun child ↦ if step = other then change child else child := by
  cases value with
  | object members =>
    cases other with
    | member key =>
      rw [changeChild, child?, child?]
      induction members with
      | nil => rfl
      | cons entry rest ih =>
        rw [List.map_cons, Entries.get?_cons, Entries.get?_cons, ih]
        dsimp only
        split
        · rename_i heq
          rw [heq]
          rfl
        · rfl
    | element position => rfl
  | array items =>
    cases other with
    | member key => rfl
    | element position => simp [changeChild, child?]
  | null | bool _ | number _ | string _ => cases other <;> rfl

/-! ## Any location -/

/-- The document with another value at the location that steps lead to, or the document itself if
they lead to none. -/
def replace (document : Json) : List LocationStep → Json → Json
  | [], value => value
  | step :: rest, value => document.changeChild (·.replace rest value) step

theorem sameShape_replace_cons (document value : Json) {rest : List LocationStep} :
    SameShape (document.replace (step :: rest) value) document := sameShape_changeChild document

theorem at?_replace (h : document.at? steps = some old) :
    (document.replace steps value).at? steps = some value := by
  induction steps generalizing document with
  | nil => rfl
  | cons step rest ih =>
    obtain ⟨child, hchild, hrest⟩ := at?_cons_eq_some_iff.mp h
    rw [replace, at?_cons_eq_some_iff, child?_changeChild, hchild, Option.map_some, if_pos rfl]
    exact ⟨_, rfl, ih hrest⟩

theorem at?_replace_of_not_prefix {other : List LocationStep} (habove : ¬other <+: steps)
    (hbelow : ¬steps <+: other) : (document.replace steps value).at? other = document.at? other := by
  induction steps generalizing document other with
  | nil => exact absurd List.nil_prefix hbelow
  | cons step rest ih =>
    cases other with
    | nil => exact absurd List.nil_prefix habove
    | cons next others =>
      rw [replace, at?, at?, child?_changeChild, Option.bind_map]
      refine Option.bind_congr fun child _ ↦ ?_
      dsimp only [Function.comp_apply]
      split
      · rename_i heq
        subst heq
        exact ih (fun h ↦ habove (List.cons_prefix_cons.mpr ⟨rfl, h⟩))
          (fun h ↦ hbelow (List.cons_prefix_cons.mpr ⟨rfl, h⟩))
      · rfl

end Json

/-! ## What does not depend on a part -/

/-- What is seen at locations does not depend on the place that steps lead to: at the place and
below it nothing is seen, and elsewhere no more of a value than its shape. -/
structure BlindTo {β : Type} (steps : List LocationStep) (seen : Location → List β) : Prop where
  below : ∀ location : Location, steps <+: location.steps → seen location = []
  shape : ∀ route first second, Json.SameShape first second →
    seen ⟨route, first⟩ = seen ⟨route, second⟩

namespace BlindTo

variable {β : Type} {seen : Location → List β}

theorem under {step : LocationStep} {rest : List LocationStep} (h : BlindTo (step :: rest) seen) :
    BlindTo rest fun location ↦ seen (location.under step) where
  below _ hbelow := h.below _ (List.cons_prefix_cons.mpr ⟨rfl, hbelow⟩)
  shape route first second hshape := h.shape (step :: route) first second hshape

/-- **What does not depend on a place is the same after the value there is replaced.** -/
theorem flatMap_locations_replace (h : BlindTo steps seen) (document value : Json) :
    (document.replace steps value).locations.flatMap seen = document.locations.flatMap seen := by
  induction steps generalizing document seen with
  | nil =>
    have hnone : ∀ document : Json, document.locations.flatMap seen = [] := fun _ ↦
      List.flatMap_eq_nil_iff.mpr fun location _ ↦ h.below location List.nil_prefix
    rw [hnone, hnone]
  | cons step rest ih =>
    rw [Json.locations, Json.locations, List.flatMap_cons, List.flatMap_cons,
      h.shape [] _ document (Json.sameShape_replace_cons document value), Json.descendants_eq,
      Json.descendants_eq, Json.replace, Json.children_changeChild, List.flatMap_map,
      List.flatMap_assoc, List.flatMap_assoc]
    refine congrArg _ (List.flatMap_congr fun child _ ↦ ?_)
    dsimp only
    rw [List.flatMap_map, List.flatMap_map]
    -- Only the child on the way to the place has changed, and from there the rest of the way counts.
    split
    · rename_i heq
      subst heq
      exact ih h.under child.2
    · rfl

/-- The root is the same to both, so what is seen below it is. -/
theorem flatMap_descendants_replace (h : BlindTo steps seen) (hsteps : steps ≠ [])
    (document value : Json) :
    (document.replace steps value).descendants.flatMap seen
      = document.descendants.flatMap seen := by
  obtain ⟨step, rest, rfl⟩ := List.exists_cons_of_ne_nil hsteps
  have hlocations := h.flatMap_locations_replace document value
  rw [Json.locations, Json.locations, List.flatMap_cons, List.flatMap_cons,
    h.shape [] _ document (Json.sameShape_replace_cons document value)] at hlocations
  exact List.append_cancel_left hlocations

end BlindTo

end DocumentSchema
