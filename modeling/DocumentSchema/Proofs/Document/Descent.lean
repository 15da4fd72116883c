import DocumentSchema.Proofs.Document.Location
import Mathlib.Data.List.Basic
import Mathlib.Data.Option.Basic

/-!
# The locations of a document

`Json.locations` lists every value of a document with the steps that lead to it, in document order:
a value comes before what is below it, and what is below one member or element comes before the
next. Where no object repeats a key this list and `Json.at?`, which follows steps down one by one,
say the same, and no location is listed twice.

A value is described by its children alone. `Json.induction_children` makes that an induction, so
that nothing below has to treat members and elements apart.
-/

namespace DocumentSchema

/-- The location seen from the value that a step leads down from. -/
def Location.under (step : LocationStep) (location : Location) : Location :=
  ⟨step :: location.steps, location.value⟩

@[simp] theorem Location.steps_under (step : LocationStep) (location : Location) :
    (location.under step).steps = step :: location.steps := rfl

@[simp] theorem Location.value_under (step : LocationStep) (location : Location) :
    (location.under step).value = location.value := rfl

namespace Json

/-! ## Children -/

/-- The values one step below a value, each with the step. -/
def children : Json → List (LocationStep × Json)
  | object members => members.map fun (key, value) ↦ (.member key, value)
  | array items => items.mapIdx fun position item ↦ (.element position, item)
  | _ => []

def child? : Json → LocationStep → Option Json
  | object members, .member key => Entries.get? members key
  | array items, .element position => items[position]?
  | _, _ => none

theorem mem_children_object {members : Members} {child : LocationStep × Json} :
    child ∈ (object members).children ↔
      ∃ key value, (key, value) ∈ members ∧ child = (.member key, value) := by
  simp [children, eq_comm]

theorem mem_children_array {items : List Json} {child : LocationStep × Json} :
    child ∈ (array items).children ↔
      ∃ position item, items[position]? = some item ∧ child = (.element position, item) := by
  rw [children, List.mem_mapIdx]
  constructor
  · rintro ⟨position, hposition, rfl⟩
    exact ⟨position, _, List.getElem?_eq_getElem hposition, rfl⟩
  · rintro ⟨position, item, hitem, rfl⟩
    obtain ⟨hposition, rfl⟩ := List.getElem?_eq_some_iff.mp hitem
    exact ⟨position, hposition, rfl⟩

/-- What holds of a value if it holds of its children holds of every value. -/
theorem induction_children {motive : Json → Prop}
    (step : ∀ value, (∀ child ∈ value.children, motive child.2) → motive value) (value : Json) :
    motive value := by
  -- The size of a child is less than that of the value.
  induction hsize : sizeOf value using Nat.strongRecOn generalizing value with
  | _ size ih =>
    subst hsize
    refine step value fun child hchild ↦ ih _ ?_ child.2 rfl
    cases value with
    | object members =>
      obtain ⟨key, value, hmember, rfl⟩ := mem_children_object.mp hchild
      have hlt := List.sizeOf_lt_of_mem hmember
      simp only [object.sizeOf_spec, Prod.mk.sizeOf_spec] at hlt ⊢
      omega
    | array items =>
      obtain ⟨position, item, hitem, rfl⟩ := mem_children_array.mp hchild
      have hlt := List.sizeOf_lt_of_mem (List.mem_of_getElem? hitem)
      simp only [array.sizeOf_spec] at hlt ⊢
      omega
    | null | bool _ | number _ | string _ => cases hchild

theorem KeysDistinct.of_mem_children {value : Json} (h : value.KeysDistinct)
    {child : LocationStep × Json} (hchild : child ∈ value.children) : child.2.KeysDistinct := by
  cases value with
  | object members =>
    obtain ⟨key, value, hmember, rfl⟩ := mem_children_object.mp hchild
    exact (keysDistinctMembers_iff members).mp h.2 _ hmember
  | array items =>
    obtain ⟨position, item, hitem, rfl⟩ := mem_children_array.mp hchild
    exact (keysDistinctItems_iff items).mp h _ (List.mem_of_getElem? hitem)
  | null | bool _ | number _ | string _ => cases hchild

theorem Addressable.of_mem_children {value : Json} (h : value.Addressable)
    {child : LocationStep × Json} (hchild : child ∈ value.children) :
    child.1.IsWritable ∧ child.2.Addressable := by
  cases value with
  | object members =>
    obtain ⟨key, value, hmember, rfl⟩ := mem_children_object.mp hchild
    clear hchild
    induction members with
    | nil => cases hmember
    | cons member rest ih =>
      obtain ⟨hkey, -, hvalue, hrest⟩ := addressable_object_cons h
      rcases List.mem_cons.mp hmember with heq | hmember
      · cases heq
        exact ⟨hkey, hvalue⟩
      · exact ih hrest hmember
  | array items =>
    obtain ⟨position, item, hitem, rfl⟩ := mem_children_array.mp hchild
    clear hchild
    refine ⟨trivial, ?_⟩
    have hmember := List.mem_of_getElem? hitem
    clear hitem
    induction items with
    | nil => cases hmember
    | cons first rest ih =>
      obtain ⟨hfirst, hrest⟩ := addressable_array_cons h
      rcases List.mem_cons.mp hmember with rfl | hmember
      · exact hfirst
      · exact ih hrest hmember
  | null | bool _ | number _ | string _ => cases hchild

theorem KeysDistinct.mem_children_iff {value : Json} (h : value.KeysDistinct)
    {step : LocationStep} {child : Json} :
    (step, child) ∈ value.children ↔ value.child? step = some child := by
  cases value with
  | object members =>
    rw [mem_children_object]
    cases step with
    | member key => simp [child?, ← Entries.mem_iff_get?_eq_some h.1]
    | element position => simp [child?]
  | array items =>
    rw [mem_children_array]
    cases step with
    | member key => simp [child?]
    | element position => simp [child?]
  | null | bool _ | number _ | string _ => cases step <;> simp [children, child?]

theorem KeysDistinct.nodup_children {value : Json} (h : value.KeysDistinct) :
    (value.children.map (·.1)).Nodup := by
  cases value with
  | object members =>
    have hsteps : (object members).children.map (·.1)
        = (Entries.keys members).map Step.member := by
      simp [children, Entries.keys]
    rw [hsteps]
    exact h.1.map fun first second heq ↦ Step.member.inj heq
  | array items =>
    have hsteps : (array items).children.map (·.1)
        = (List.range items.length).map Step.element :=
      List.ext_getElem (by simp [children]) (by simp [children])
    rw [hsteps]
    exact List.nodup_range.map fun first second heq ↦ Step.element.inj heq
  | null | bool _ | number _ | string _ => exact List.nodup_nil

/-! ## Every location -/

mutual

/-- The locations below a value, in document order. -/
def descendants : Json → List Location
  | array items => descendantsOfItems 0 items
  | object members => descendantsOfMembers members
  | _ => []

def descendantsOfItems (position : Nat) : List Json → List Location
  | [] => []
  | item :: rest =>
    (⟨[], item⟩ :: item.descendants).map (·.under (.element position)) ++
      descendantsOfItems (position + 1) rest

def descendantsOfMembers : List (String × Json) → List Location
  | [] => []
  | (key, value) :: rest =>
    (⟨[], value⟩ :: value.descendants).map (·.under (.member key)) ++ descendantsOfMembers rest

end

/-- The locations of a document, in document order. -/
def locations (document : Json) : List Location := ⟨[], document⟩ :: document.descendants

theorem descendants_eq (value : Json) :
    value.descendants = value.children.flatMap fun child ↦
      child.2.locations.map (·.under child.1) := by
  cases value with
  | object members =>
    rw [descendants, children, List.flatMap_map]
    induction members with
    | nil => rfl
    | cons member rest ih =>
      obtain ⟨key, value⟩ := member
      rw [descendantsOfMembers, ih, List.flatMap_cons, locations]
  | array items =>
    have hitems : ∀ position, descendantsOfItems position items
        = (items.mapIdx fun index item ↦ (Step.element (position + index), item)).flatMap
            fun child ↦ child.2.locations.map (·.under child.1) := by
      induction items with
      | nil => intro position; rfl
      | cons item rest ih =>
        intro position
        rw [descendantsOfItems, ih, List.mapIdx_cons, List.flatMap_cons, locations]
        simp only [Nat.add_zero, Nat.add_assoc, Nat.add_comm 1]
    rw [descendants, hitems, children]
    simp only [Nat.zero_add]
  | null | bool _ | number _ | string _ => rfl

theorem mem_descendants {value : Json} {location : Location} :
    location ∈ value.descendants ↔ ∃ child ∈ value.children, ∃ below ∈ child.2.locations,
      location = below.under child.1 := by
  rw [descendants_eq]
  simp [eq_comm]

theorem steps_ne_nil_of_mem_descendants {value : Json} {location : Location}
    (h : location ∈ value.descendants) : location.steps ≠ [] := by
  obtain ⟨child, -, below, -, rfl⟩ := mem_descendants.mp h
  exact List.cons_ne_nil _ _

/-! ## Following steps -/

def at? (document : Json) : List LocationStep → Option Json
  | [] => some document
  | step :: rest => (document.child? step).bind (·.at? rest)

@[simp] theorem at?_nil (document : Json) : document.at? [] = some document := rfl

theorem at?_cons_eq_some_iff {document value : Json} {step : LocationStep}
    {rest : List LocationStep} :
    document.at? (step :: rest) = some value ↔
      ∃ child, document.child? step = some child ∧ child.at? rest = some value := by
  rw [at?, Option.bind_eq_some_iff]

theorem Addressable.isWritable_of_at? {document value : Json} (h : document.Addressable)
    {steps : List LocationStep} (hvalue : document.at? steps = some value) :
    ∀ step ∈ steps, step.IsWritable := by
  induction steps generalizing document with
  | nil => exact fun _ ↦ (nomatch ·)
  | cons step rest ih =>
    obtain ⟨child, hchild, hrest⟩ := at?_cons_eq_some_iff.mp hvalue
    obtain ⟨hstep, haddressable⟩ := h.of_mem_children (h.keysDistinct.mem_children_iff.mpr hchild)
    intro other hother
    rcases List.mem_cons.mp hother with rfl | hother
    · exact hstep
    · exact ih haddressable hrest other hother

/-- **The locations of a document are what steps lead to.** -/
theorem KeysDistinct.mem_locations_iff {document : Json} (h : document.KeysDistinct)
    {location : Location} :
    location ∈ document.locations ↔ document.at? location.steps = some location.value := by
  obtain ⟨steps, value⟩ := location
  induction steps generalizing document with
  | nil =>
    have hbelow : ⟨[], value⟩ ∉ document.descendants := fun hmem ↦
      steps_ne_nil_of_mem_descendants hmem rfl
    simp [locations, hbelow, eq_comm]
  | cons step rest ih =>
    rw [locations, List.mem_cons, mem_descendants, at?_cons_eq_some_iff]
    constructor
    · rintro (hroot | ⟨⟨first, child⟩, hchild, ⟨steps, below⟩, hbelow, hlocation⟩)
      · cases hroot
      · cases hlocation
        exact ⟨child, h.mem_children_iff.mp hchild, (ih (h.of_mem_children hchild)).mp hbelow⟩
    · rintro ⟨child, hchild, hvalue⟩
      have hmem := h.mem_children_iff.mpr hchild
      exact .inr ⟨_, hmem, ⟨rest, value⟩, (ih (h.of_mem_children hmem)).mpr hvalue, rfl⟩

/-- **No location is listed twice.** -/
theorem KeysDistinct.nodup_locations {document : Json} (h : document.KeysDistinct) :
    (document.locations.map (·.steps)).Nodup := by
  induction document using induction_children with
  | step document ih =>
    rw [locations, List.map_cons, List.nodup_cons]
    refine ⟨fun hmem ↦ ?_, ?_⟩
    · obtain ⟨location, hlocation, hsteps⟩ := List.mem_map.mp hmem
      exact steps_ne_nil_of_mem_descendants hlocation hsteps
    · rw [descendants_eq, List.map_flatMap]
      -- The first step tells from which child a location comes.
      have hkeys : (document.children.map fun child ↦ some child.1).Nodup := by
        have hsome := h.nodup_children.map (Option.some_injective LocationStep)
        rwa [List.map_map] at hsome
      refine nodup_flatMap_of_source List.head? hkeys (fun child hchild ↦ ?_) ?_
      · rw [List.map_map]
        have hbelow := (ih child hchild (h.of_mem_children hchild)).map
          (List.cons_injective : Function.Injective (List.cons child.1))
        rwa [List.map_map] at hbelow
      · intro child _ route hroute
        obtain ⟨location, hlocation, rfl⟩ := List.mem_map.mp hroute
        obtain ⟨below, -, rfl⟩ := List.mem_map.mp hlocation
        rfl

end Json

end DocumentSchema
