import DocumentSchema.Proofs.Index.Entries

/-!
# The walk passes no member by

The walk that builds the index comes to every place that known templates lead to, and what it finds
there it keeps: a member whose template is known is listed under it, and every other member is noted
as extra. Which of the two happens is a matter of the text of the template alone. Nothing is asked
of the keys of the document here, so the text may be that of another place.

Parts of the walk are put together by appending, and nothing is dropped. So what a part finds is
found by the whole, and it is enough to follow the steps of a template down to the part.
-/

namespace DocumentSchema

open DocumentSchema.Path

namespace Index

variable {known : String → Bool} {part whole first second : Index}

/-- What is listed or noted in one index is so in another. -/
structure Within (part whole : Index) : Prop where
  listed : part.listed ⊆ whole.listed
  extraFields : part.extraFields ⊆ whole.extraFields

theorem Within.refl (index : Index) : index.Within index :=
  ⟨List.Subset.refl _, List.Subset.refl _⟩

theorem Within.trans (h : part.Within first) (hnext : first.Within whole) : part.Within whole :=
  ⟨List.Subset.trans h.listed hnext.listed, List.Subset.trans h.extraFields hnext.extraFields⟩

theorem Within.append_left (h : part.Within first) (second : Index) :
    part.Within (first ++ second) :=
  ⟨List.subset_append_of_subset_left _ h.listed,
    List.subset_append_of_subset_left _ h.extraFields⟩

theorem Within.append_right (h : part.Within second) (first : Index) :
    part.Within (first ++ second) :=
  ⟨List.subset_append_of_subset_right _ h.listed,
    List.subset_append_of_subset_right _ h.extraFields⟩

theorem mem_entries {index : Index} {template : String} {entry : IndexEntry}
    (h : (template, entry) ∈ index.listed) : entry ∈ index.entries template :=
  List.mem_filterMap.mpr ⟨_, h, if_pos rfl⟩

/-! ## Parts of the walk -/

def ofMember (known : String → Bool) (template path key : String) (value : Json) : Index :=
  if known (child template key) then
    single (child template key) ⟨child path key, value, some .object⟩ ++
      below known (child template key) (child path key) value
  else extra (child path key)

theorem within_ofMembers {key : String} {value : Json} {members : Members}
    (h : (key, value) ∈ members) (template path : String) :
    (ofMember known template path key value).Within (ofMembers known template path members) := by
  induction members with
  | nil => cases h
  | cons member rest ih =>
    obtain ⟨other, value⟩ := member
    rw [ofMembers]
    rcases List.mem_cons.mp h with heq | h
    · cases heq
      exact (Within.refl _).append_left _
    · exact (ih h).append_right _

theorem within_ofItems {index : Nat} {item : Json} {items : List Json}
    (h : items[index]? = some item) (element path : String) (position : Nat) :
    (below known element (concreteElement path (position + index)) item).Within
      (ofItems known element path position items) := by
  induction items generalizing index position with
  | nil => cases h
  | cons first rest ih =>
    rw [ofItems]
    cases index with
    | zero =>
      obtain rfl : first = item := Option.some.inj h
      exact ((Within.refl _).append_right _).append_left _
    | succ index =>
      rw [List.getElem?_cons_succ] at h
      have hlater := ih h (position + 1)
      rw [Nat.add_right_comm] at hlater
      exact hlater.append_right _

theorem within_below_down {location next : Location} {step : TemplateStep}
    (h : next ∈ location.follow step) {template : String}
    (hknown : known (down template step) = true) :
    (below known (down template step) next.path next.value).Within
      (below known template location.path location.value) := by
  cases step with
  | member key =>
    rw [Location.follow] at h
    split at h
    · rename_i members hvalue
      split at h
      · rename_i value hget
        obtain ⟨before, after, hmembers, -⟩ := List.lookup_eq_some_iff.mp hget
        have hmember : (key, value) ∈ members := by rw [hmembers]; simp
        have hpart : (ofMember known template location.path key value).Within _ :=
          within_ofMembers hmember template location.path
        have hlisted : known (child template key) = true := hknown
        rw [ofMember, if_pos hlisted] at hpart
        rw [List.mem_singleton.mp h, hvalue, below, Location.path, concrete_append_singleton]
        exact ((Within.refl _).append_right _).trans hpart
      · cases h
    · cases h
  | element _ =>
    rw [Location.follow] at h
    split at h
    · rename_i items hvalue
      obtain ⟨position, hposition, rfl⟩ := List.mem_mapIdx.mp h
      have hitem : items[position]? = some items[position] := List.getElem?_eq_getElem hposition
      have hpart : (below known (element template)
          (concreteElement location.path (0 + position)) _).Within _ :=
        within_ofItems hitem (element template) location.path 0
      have hentered : known (element template) = true := hknown
      rw [Nat.zero_add] at hpart
      rw [hvalue, below, if_pos hentered, Location.path, concrete_append_singleton]
      exact hpart.append_right _
    · cases h

/-! ## The whole walk -/

/-- **What known templates lead to is entered.** -/
theorem within_ofDocument (hclosed : Closed known) {path : String} (hpath : IsTemplate path)
    (hknown : path = root ∨ known path = true) {members : Members} {location : Location}
    (h : location ∈ (Json.object members).select (steps path)) :
    (below known path location.path location.value).Within
      (ofDocument known (.object members)) := by
  induction hpath generalizing location with
  | root =>
    rw [steps_root, Json.select_nil, List.mem_singleton] at h
    rw [h, ofDocument, below]
    exact (Within.refl _).append_right _
  | @down parent step hparent hstep ih =>
    have hdown : known (down parent step) = true := hknown.resolve_left fun hroot ↦ by
      have hnot := isRoot_down parent hstep
      rw [hroot, isRoot_root] at hnot
      cases hnot
    rw [steps_down parent hstep, Json.select_append_singleton, List.mem_flatMap] at h
    obtain ⟨above, habove, hnext⟩ := h
    exact (within_below_down hnext hdown).trans (ih (.inr (hclosed hparent hstep hdown)) habove)

/-- **Members are listed or noted.** Of an object that known templates lead to, a member is listed
if the text of its template is known, and is extra otherwise. -/
theorem listed_or_extra (hclosed : Closed known) {path : String} (hpath : IsTemplate path)
    (hknown : path = root ∨ known path = true) {members : Members} {location : Location}
    (h : location ∈ (Json.object members).select (steps path)) {around : Members}
    (hvalue : location.value = .object around) {key : String} {value : Json}
    (hmember : (key, value) ∈ around) :
    if known (child path key) = true then
      ⟨child location.path key, value, some .object⟩ ∈
        (ofDocument known (.object members)).entries (child path key)
    else child location.path key ∈ (ofDocument known (.object members)).extraFields := by
  have hplace := within_ofDocument hclosed hpath hknown h
  rw [hvalue, below] at hplace
  have hpart := (within_ofMembers hmember path location.path).trans hplace
  rw [ofMember] at hpart
  split
  · rename_i htemplate
    rw [if_pos htemplate] at hpart
    exact mem_entries (hpart.listed List.mem_cons_self)
  · rename_i htemplate
    rw [if_neg htemplate] at hpart
    exact hpart.extraFields (List.mem_singleton_self _)

end Index

end DocumentSchema
