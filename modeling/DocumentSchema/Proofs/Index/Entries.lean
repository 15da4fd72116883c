import DocumentSchema.Index
import DocumentSchema.Proofs.Document.Location
import DocumentSchema.Proofs.Schema.Walk
import Mathlib.Data.List.Basic

/-!
# What the index lists

The index is built in one walk that is guided by the shape of the document, and groups values by
the texts of their templates. Seen from one template, the walk lists the values one step below a
template exactly when and where it lists the values at the template itself: they are the values
that the step leads to from those, in the same order. `entries_ofDocument_down` is this step; what
a template lists altogether follows by going down from the root.

Two facts about texts carry the argument. A template one step down is written in one way only, so a
walk meets it in one place only; and everything below a value has more steps than the value, so
nothing that is listed later interferes with the order.
-/

namespace DocumentSchema

open DocumentSchema.Path

def Location.entry (location : Location) : IndexEntry :=
  ⟨location.path, location.value, location.steps.getLast?.map Step.container⟩

namespace Index

/-- What a step of a template leads to from a value at a concrete path. -/
def follow (step : TemplateStep) (path : String) (value : Json) : List IndexEntry :=
  match step, value with
  | .member key, .object members =>
    match Entries.get? members key with
    | some value => [⟨child path key, value, some .object⟩]
    | none => []
  | .element _, .array items =>
    items.mapIdx fun position item ↦ ⟨concreteElement path position, item, some .list⟩
  | _, _ => []

theorem follow_path (step : TemplateStep) (location : Location) :
    follow step location.path location.value = (location.follow step).map Location.entry := by
  cases step with
  | member key =>
    rw [follow.eq_def, Location.follow]
    cases location.value with
    | object members =>
      cases hget : Entries.get? members key with
      | none => simp [hget]
      | some value => simp [hget, Location.entry, Location.path, downTo, Step.container]
    | null | bool _ | number _ | string _ | array _ => rfl
  | element _ =>
    rw [follow.eq_def, Location.follow]
    cases location.value with
    | array items =>
      simp [Location.entry, Location.path, downTo, Step.container, List.mapIdx_eq_zipIdx_map]
    | null | bool _ | number _ | string _ | object _ => rfl

/-! ## What is below has more steps -/

variable {known : String → Bool}

@[simp] theorem listed_single (template : String) (entry : IndexEntry) :
    (single template entry).listed = [(template, entry)] := rfl

@[simp] theorem listed_extra (path : String) : (extra path).listed = [] := rfl

@[simp] theorem listed_empty : ({} : Index).listed = [] := rfl

mutual

private theorem length_lt_of_mem_below (template path : String) :
    ∀ {value : Json}, value.Addressable → ∀ listing ∈ (below known template path value).listed,
      (steps template).length < (steps listing.1).length
  | .null, _ | .bool _, _ | .number _, _ | .string _, _ => by
    intro listing hlisting
    simp [below] at hlisting
  | .object members, h => by
    rw [below]
    exact length_lt_of_mem_ofMembers template path h
  | .array items, h => by
    rw [below]
    intro listing hlisting
    split at hlisting
    · have hitems := length_le_of_mem_ofItems (element template) path 0 h listing
        (by simpa using hlisting)
      rw [steps_element, List.length_append, List.length_singleton] at hitems
      omega
    · cases hlisting

private theorem length_lt_of_mem_ofMembers (template path : String) :
    ∀ {members : Members}, (Json.object members).Addressable →
      ∀ listing ∈ (ofMembers known template path members).listed,
        (steps template).length < (steps listing.1).length
  | [], _ => by
    intro listing hlisting
    simp [ofMembers] at hlisting
  | (key, value) :: rest, h => by
    obtain ⟨hkey, -, hvalue, hrest⟩ := Json.addressable_object_cons h
    have hsteps := congrArg List.length (steps_child template hkey)
    rw [List.length_append, List.length_singleton] at hsteps
    rw [ofMembers]
    intro listing hlisting
    rw [listed_append, List.mem_append] at hlisting
    rcases hlisting with hhere | hlater
    · split at hhere
      · rw [listed_append, listed_single, List.singleton_append, List.mem_cons] at hhere
        rcases hhere with rfl | hbelow
        · simp only
          omega
        · have := length_lt_of_mem_below (child template key) (child path key) hvalue listing hbelow
          omega
      · cases hhere
    · exact length_lt_of_mem_ofMembers template path hrest listing hlater

private theorem length_le_of_mem_ofItems (element path : String) (position : Nat) :
    ∀ {items : List Json}, (Json.array items).Addressable →
      ∀ listing ∈ (ofItems known element path position items).listed,
        (steps element).length ≤ (steps listing.1).length
  | [], _ => by
    intro listing hlisting
    simp [ofItems] at hlisting
  | item :: rest, h => by
    obtain ⟨hitem, hrest⟩ := Json.addressable_array_cons h
    rw [ofItems]
    intro listing hlisting
    rw [listed_append, listed_append, listed_single, List.mem_append, List.singleton_append,
      List.mem_cons] at hlisting
    rcases hlisting with (rfl | hbelow) | hlater
    · exact Nat.le_refl _
    · exact Nat.le_of_lt (length_lt_of_mem_below element _ hitem listing hbelow)
    · exact length_le_of_mem_ofItems element path (position + 1) hrest listing hlater

end

/-! ## One step below a template -/

theorem entries_eq_nil {index : Index} {template : String}
    (h : ∀ listing ∈ index.listed, listing.1 ≠ template) : index.entries template = [] := by
  rw [entries, List.filterMap_eq_nil_iff]
  rintro ⟨found, entry⟩ hlisting
  exact if_neg (h _ hlisting)

@[simp] theorem entries_single (found template : String) (entry : IndexEntry) :
    (single found entry).entries template = if found = template then [entry] else [] := by
  rw [entries, listed_single, List.filterMap_cons, List.filterMap_nil]
  by_cases h : found = template <;> simp [h]

@[simp] theorem entries_extra (path template : String) : (extra path).entries template = [] := rfl

@[simp] theorem entries_empty (template : String) : ({} : Index).entries template = [] := rfl

/-- Nothing is listed for a template that has fewer steps than everything that is listed. -/
theorem entries_eq_nil_of_shorter {index : Index} {template : String}
    (h : ∀ listing ∈ index.listed, (steps template).length < (steps listing.1).length) :
    index.entries template = [] := by
  refine entries_eq_nil fun listing hlisting heq ↦ ?_
  have hlength := h listing hlisting
  rw [heq] at hlength
  exact absurd hlength (Nat.lt_irrefl _)

private theorem entries_below_eq_nil {template other path : String} {value : Json}
    (h : value.Addressable) (hlength : (steps other).length ≤ (steps template).length) :
    (below known template path value).entries other = [] :=
  entries_eq_nil_of_shorter fun listing hlisting ↦
    Nat.lt_of_le_of_lt hlength (length_lt_of_mem_below template path h listing hlisting)

private theorem entries_ofMembers_eq_nil {template other path : String} {members : Members}
    (h : (Json.object members).Addressable)
    (hlength : (steps other).length ≤ (steps template).length) :
    (ofMembers known template path members).entries other = [] :=
  entries_eq_nil_of_shorter fun listing hlisting ↦
    Nat.lt_of_le_of_lt hlength (length_lt_of_mem_ofMembers template path h listing hlisting)

private theorem entries_ofItems_eq_nil {element other path : String} {position : Nat}
    {items : List Json} (h : (Json.array items).Addressable)
    (hlength : (steps other).length < (steps element).length) :
    (ofItems known element path position items).entries other = [] :=
  entries_eq_nil_of_shorter fun listing hlisting ↦
    Nat.lt_of_lt_of_le hlength (length_le_of_mem_ofItems element path position h listing hlisting)

section Down

variable {parent : String} {step : TemplateStep}

def followEach (step : TemplateStep) (entries : List IndexEntry) : List IndexEntry :=
  entries.flatMap fun entry ↦ follow step entry.path entry.value

@[simp] theorem followEach_nil (step : TemplateStep) : followEach step [] = [] := rfl

@[simp] theorem followEach_cons (step : TemplateStep) (entry : IndexEntry)
    (rest : List IndexEntry) :
    followEach step (entry :: rest)
      = follow step entry.path entry.value ++ followEach step rest := List.flatMap_cons

@[simp] theorem followEach_append (step : TemplateStep) (first second : List IndexEntry) :
    followEach step (first ++ second) = followEach step first ++ followEach step second :=
  List.flatMap_append

private theorem follow_object_cons {path key : String} {value : Json} {rest : Members}
    (h : step ≠ .member key) :
    follow step path (.object ((key, value) :: rest)) = follow step path (.object rest) := by
  cases step with
  | element _ => rfl
  | member other =>
    have hother : other ≠ key := fun heq ↦ h (heq ▸ rfl)
    rw [follow, follow, Entries.get?_cons, if_neg hother]

mutual

private theorem entries_below_down (hparent : IsTemplate parent) (hstep : step.IsWritable)
    (hknown : known (down parent step) = true) {template : String} (htemplate : IsTemplate template)
    (path : String) :
    ∀ {value : Json}, value.Addressable →
      (below known template path value).entries (down parent step)
        = (if template = parent then follow step path value else []) ++
          followEach step ((below known template path value).entries parent)
  | .null, _ | .bool _, _ | .number _, _ | .string _, _ => by
    cases step <;> simp [below, follow]
  | .object members, h => by
    rw [below]
    exact entries_ofMembers_down hparent hstep hknown htemplate path h
  | .array items, h => by
    have hinj := htemplate.down_inj hparent (show Step.IsWritable (.element ()) from trivial) hstep
    by_cases hitems : known (element template) = true
    · have hdown := entries_ofItems_down hparent hstep hknown htemplate.element path 0 h
      have hentered : ∀ other, (below known template path (.array items)).entries other
          = (ofItems known (element template) path 0 items).entries other := by
        intro other
        rw [below, if_pos hitems]
        rfl
      rw [hentered, hentered, hdown]
      congr 1
      -- The step goes to these elements if the template is the one that it goes down from.
      by_cases hhit : element template = down parent step
      · obtain ⟨rfl, rfl⟩ := hinj.mp hhit
        simp [down, follow]
      · rw [if_neg hhit]
        split
        · rename_i htop
          cases step with
          | member key => rfl
          | element _ => exact absurd (hinj.mpr ⟨htop, rfl⟩) hhit
        · rfl
    · -- Nobody asks for the elements, so they are not entered and the step does not go to them.
      have hnothing : below known template path (.array items) = {} := by
        rw [below, if_neg hitems]
      rw [hnothing, entries_empty, entries_empty, followEach_nil, List.append_nil]
      split
      · rename_i htop
        cases step with
        | member key => rfl
        | element _ => exact absurd (htop ▸ hknown) hitems
      · rfl

private theorem entries_ofMembers_down (hparent : IsTemplate parent) (hstep : step.IsWritable)
    (hknown : known (down parent step) = true) {template : String} (htemplate : IsTemplate template)
    (path : String) :
    ∀ {members : Members}, (Json.object members).Addressable →
      (ofMembers known template path members).entries (down parent step)
        = (if template = parent then follow step path (.object members) else []) ++
          followEach step ((ofMembers known template path members).entries parent)
  | [], _ => by
    cases step <;> simp [ofMembers, follow, Entries.get?]
  | (key, value) :: rest, h => by
    obtain ⟨hkey, hfresh, hvalue, hrest⟩ := Json.addressable_object_cons h
    have hinj := htemplate.down_inj hparent (show Step.IsWritable (.member key) from hkey) hstep
    have hlater := entries_ofMembers_down hparent hstep hknown htemplate path hrest
    have hlength := congrArg List.length (steps_child template hkey)
    rw [List.length_append, List.length_singleton] at hlength
    rw [ofMembers, entries_append, entries_append, hlater]
    by_cases hhit : child template key = down parent step
    · -- The member that the step goes to. Nothing else of this object is at the step's template.
      obtain ⟨rfl, rfl⟩ := hinj.mp hhit
      have hother : child template key ≠ template := fun heq ↦ by
        rw [heq] at hlength
        omega
      have hget : Entries.get? rest key = none := Entries.get?_eq_none_iff.mpr hfresh
      have hmember : known (child template key) = true := hknown
      rw [← hhit, if_pos hmember, entries_append, entries_append, entries_single, entries_single,
        if_pos rfl, if_neg hother, entries_below_eq_nil hvalue (Nat.le_refl _),
        entries_below_eq_nil hvalue (by omega), entries_ofMembers_eq_nil hrest (Nat.le_refl _)]
      simp [follow, hget, Entries.get?_cons]
    · -- The step passes over this member, and what is below the member is by itself.
      have hpass : template = parent →
          follow step path (.object ((key, value) :: rest)) = follow step path (.object rest) :=
        fun htop ↦ follow_object_cons fun heq ↦ hhit (hinj.mpr ⟨htop, heq.symm⟩)
      by_cases hmember : known (child template key) = true
      · have hbelow := entries_below_down hparent hstep hknown (htemplate.child hkey)
          (child path key) hvalue
        rw [if_pos hmember, entries_append, entries_append, entries_single, entries_single,
          if_neg hhit, hbelow]
        by_cases htop : template = parent
        · have hother : child template key ≠ parent := fun heq ↦ by
            rw [heq, htop] at hlength
            omega
          rw [if_pos htop, if_pos htop, hpass htop, if_neg hother, if_neg hother,
            entries_below_eq_nil hvalue (by rw [← htop]; omega)]
          simp
        · rw [if_neg htop, if_neg htop]
          split <;> simp
      · rw [if_neg hmember, entries_extra, entries_extra]
        by_cases htop : template = parent
        · rw [if_pos htop, if_pos htop, hpass htop]
          rfl
        · rw [if_neg htop, if_neg htop]
          rfl

private theorem entries_ofItems_down (hparent : IsTemplate parent) (hstep : step.IsWritable)
    (hknown : known (down parent step) = true) {element : String} (helement : IsTemplate element)
    (path : String) (position : Nat) :
    ∀ {items : List Json}, (Json.array items).Addressable →
      (ofItems known element path position items).entries (down parent step)
        = (if element = down parent step then
            items.mapIdx fun index item ↦
              ⟨concreteElement path (position + index), item, some .list⟩
          else []) ++
          followEach step ((ofItems known element path position items).entries parent)
  | [], _ => by
    simp [ofItems]
  | item :: rest, h => by
    obtain ⟨hitem, hrest⟩ := Json.addressable_array_cons h
    have hlater := entries_ofItems_down hparent hstep hknown helement path (position + 1) hrest
    rw [ofItems, entries_append, entries_append, entries_append, entries_append, entries_single,
      entries_single, hlater]
    by_cases hhit : element = down parent step
    · -- The elements that the step goes to. Nothing else of this list is at the step's template.
      have hlength := congrArg List.length (steps_down parent hstep)
      rw [List.length_append, List.length_singleton, ← hhit] at hlength
      have hother : element ≠ parent := fun heq ↦ by
        rw [heq] at hlength
        omega
      rw [if_pos hhit, if_pos hhit, if_pos hhit, if_neg hother,
        entries_below_eq_nil hitem (Nat.le_of_eq (by rw [hhit])),
        entries_below_eq_nil hitem (by omega), entries_ofItems_eq_nil hrest (by omega)]
      simp [List.mapIdx_cons, Nat.add_assoc, Nat.add_comm 1]
    · rw [if_neg hhit, if_neg hhit, if_neg hhit,
        entries_below_down hparent hstep hknown helement (concreteElement path position) hitem]
      split <;> simp

end

end Down

/-! ## What a template lists -/

theorem entries_ofDocument_root (hroot : known root = true) {members : Members}
    (h : (Json.object members).Addressable) :
    (ofDocument known (.object members)).entries root = [⟨root, .object members, none⟩] := by
  have hnothing : (ofMembers known root root members).entries root = [] :=
    entries_ofMembers_eq_nil h (Nat.le_refl _)
  rw [ofDocument]
  simp [hroot, hnothing]

/-- **One step below a template** the index lists what the step leads to, in the same order. -/
theorem entries_ofDocument_down (hroot : known root = true) {parent : String}
    (hparent : IsTemplate parent) {step : TemplateStep} (hstep : step.IsWritable)
    (hknown : known (down parent step) = true) {members : Members}
    (h : (Json.object members).Addressable) :
    (ofDocument known (.object members)).entries (down parent step)
      = followEach step ((ofDocument known (.object members)).entries parent) := by
  have hne : root ≠ down parent step := fun heq ↦ by
    have hdown := isRoot_down parent hstep
    rw [← heq] at hdown
    cases hdown
  have hmembers := entries_ofMembers_down hparent hstep hknown .root root h
  rw [ofDocument]
  simp only [hroot, if_true, entries_append, entries_single, if_neg hne, List.nil_append,
    hmembers, followEach_append]
  split <;> simp

/-- A set of templates that holds with each the one above it. -/
def Closed (known : String → Bool) : Prop :=
  ∀ {parent : String} {step : TemplateStep}, IsTemplate parent → step.IsWritable →
    known (down parent step) = true → known parent = true

theorem Closed.known_root (hclosed : Closed known) {path : String} (h : IsTemplate path)
    (hknown : known path = true) : known root = true := by
  induction h with
  | root => exact hknown
  | down hparent hstep ih => exact ih (hclosed hparent hstep hknown)

/-- **The index lists what a template selects.** For a set of templates that is closed upwards,
the entries of a template are the locations that its steps lead to, in document order. -/
theorem entries_ofDocument (hclosed : Closed known) {path : String} (hpath : IsTemplate path)
    (hknown : known path = true) {members : Members} (h : (Json.object members).Addressable) :
    (ofDocument known (.object members)).entries path
      = ((Json.object members).select (steps path)).map Location.entry := by
  have hroot := hclosed.known_root hpath hknown
  induction hpath with
  | root =>
    rw [entries_ofDocument_root hroot h]
    rfl
  | @down parent step hparent hstep ih =>
    have hfollow : ∀ locations : List Location, followEach step (locations.map Location.entry)
        = (locations.flatMap (·.follow step)).map Location.entry := by
      intro locations
      rw [followEach, List.flatMap_map, List.map_flatMap]
      exact List.flatMap_congr fun location _ ↦ follow_path step location
    rw [entries_ofDocument_down hroot hparent hstep hknown h, ih (hclosed hparent hstep hknown),
      hfollow, steps_down parent hstep, Json.select_append_singleton]

end Index

end DocumentSchema
