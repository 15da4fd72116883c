import DocumentSchema.Proofs.Document.Descent
import DocumentSchema.Proofs.Index.Entries
import Mathlib.Data.List.Infix

/-!
# The index accounts for every location

The walk that builds the index comes to a location if the templates of the location and of all that
lies above it are known. What the walk then does at each location of a document, in document order,
is `Index.visit`: the location is listed, or noted as extra, or passed over in silence because the
walk has stopped above it. The index is what all visits together leave.

Nothing is asked of the known templates here, nor of the keys of the document: the templates may
skip levels and the keys may hold dots and brackets. What the text of a template makes two places
look like is then listed under one template, each place once, in document order.
-/

namespace DocumentSchema

open DocumentSchema.Path

/-- The template of the place of a location. -/
def Location.template (location : Location) : String :=
  Path.template (location.steps.map Step.general)

namespace Index

variable {known : String → Bool} {template path : String} {container : Option ContainerKind}

/-! ## Parts of a walk -/

@[simp] theorem empty_append (index : Index) : ({} : Index) ++ index = index := rfl

@[simp] theorem append_empty (index : Index) : index ++ ({} : Index) = index := by
  obtain ⟨listed, entered, extraFields⟩ := index
  show Index.append _ _ = _
  simp [append]

theorem append_assoc (first second third : Index) :
    first ++ second ++ third = first ++ (second ++ third) := by
  show Index.append (Index.append _ _) _ = Index.append _ (Index.append _ _)
  simp [append]

/-- Parts of a walk, one after the other. -/
def concat (parts : List Index) : Index := parts.foldr (· ++ ·) {}

@[simp] theorem concat_cons (part : Index) (rest : List Index) :
    concat (part :: rest) = part ++ concat rest := rfl

theorem concat_append (first second : List Index) :
    concat (first ++ second) = concat first ++ concat second := by
  induction first with
  | nil => rfl
  | cons part rest ih => rw [List.cons_append, concat_cons, ih, concat_cons, append_assoc]

theorem concat_flatMap {α : Type} (parts : α → List Index) (list : List α) :
    concat (list.flatMap parts) = concat (list.map fun a ↦ concat (parts a)) := by
  induction list with
  | nil => rfl
  | cons a rest ih => rw [List.flatMap_cons, concat_append, ih, List.map_cons, concat_cons]

theorem concat_eq_empty {α : Type} {part : α → Index} {list : List α}
    (h : ∀ a ∈ list, part a = {}) : concat (list.map part) = {} := by
  induction list with
  | nil => rfl
  | cons a rest ih =>
    rw [List.map_cons, concat_cons, h a List.mem_cons_self,
      ih fun b hb ↦ h b (List.mem_cons_of_mem _ hb), empty_append]

/-! ## One step down -/

def enter (known : String → Bool) (template : String) : Json → Index
  | .array _ => if known (element template) then { entered := [element template] } else {}
  | _ => {}

def pass (path : String) : LocationStep → Index
  | .member _ => extra path
  | .element _ => {}

/-- The walk at a value one step below another, and below it. -/
def stepDown (known : String → Bool) (template path : String) (child : LocationStep × Json) :
    Index :=
  if known (down template child.1.general) then
    single (down template child.1.general)
        ⟨downTo path child.1, child.2, some child.1.container⟩ ++
      below known (down template child.1.general) (downTo path child.1) child.2
  else pass (downTo path child.1) child.1

/-- **The walk below a value goes down to each child in order.** -/
theorem below_eq_children (known : String → Bool) (template path : String) (value : Json) :
    below known template path value = enter known template value ++
      concat (value.children.map (stepDown known template path)) := by
  cases value with
  | null | bool _ | number _ | string _ => rfl
  | object members =>
    rw [below, Json.children, show enter known template (.object members) = {} from rfl,
      empty_append]
    induction members with
    | nil => rfl
    | cons member rest ih =>
      obtain ⟨key, value⟩ := member
      rw [ofMembers, ih]
      rfl
  | array items =>
    rw [below, Json.children, enter]
    by_cases hknown : known (element template) = true
    · have hitems : ∀ position, ofItems known (element template) path position items
          = concat ((items.mapIdx fun index item ↦ (Step.element (position + index), item)).map
              (stepDown known template path)) := by
        induction items with
        | nil => intro position; rfl
        | cons item rest ih =>
          intro position
          have hdown : known (down template (.element ())) = true := hknown
          rw [ofItems, ih, List.mapIdx_cons, List.map_cons, concat_cons, stepDown]
          simp only [Nat.add_zero, Nat.add_assoc, Nat.add_comm 1, Step.general, hdown, if_true]
          rfl
      rw [if_pos hknown, if_pos hknown, hitems]
      simp only [Nat.zero_add]
    · -- No element is listed, and none is a member that would be extra.
      rw [if_neg hknown, if_neg hknown, empty_append, concat_eq_empty]
      rintro ⟨step, item⟩ hchild
      obtain ⟨position, _, hstep⟩ := List.mem_mapIdx.mp hchild
      cases hstep
      exact if_neg hknown

/-! ## One location -/

/-- The templates of all places on the way down are known. -/
def reaches (known : String → Bool) (template : String) : List LocationStep → Bool
  | [] => true
  | step :: rest =>
    known (down template step.general) && reaches known (down template step.general) rest

/-- The last place on the way down is the first whose template is not known, and a member. -/
def misses (known : String → Bool) (template : String) : List LocationStep → Bool
  | [] => false
  | step :: rest =>
    if known (down template step.general) then misses known (down template step.general) rest
    else decide (rest = [] ∧ step.container = .object)

/-- The location as it is listed when the walk starts from a value in a container. -/
def listing (template path : String) (container : Option ContainerKind) (location : Location) :
    String × IndexEntry :=
  ((location.steps.map Step.general).foldl down template,
    ⟨location.steps.foldl downTo path, location.value,
      (location.steps.getLast?.map Step.container).or container⟩)

/-- The walk at one location, when it starts from a value at a place. -/
def visit (known : String → Bool) (template path : String) (container : Option ContainerKind)
    (location : Location) : Index :=
  let (found, entry) := listing template path container location
  if reaches known template location.steps then single found entry ++ enter known found entry.value
  else if misses known template location.steps then extra entry.path
  else {}

theorem visit_under (step : LocationStep) (location : Location) :
    visit known template path container (location.under step)
      = if known (down template step.general) then
          visit known (down template step.general) (downTo path step) (some step.container) location
        else if location.steps = [] then pass (downTo path step) step else {} := by
  have hlisting : listing template path container (location.under step)
      = listing (down template step.general) (downTo path step) (some step.container) location := by
    rw [listing, listing, Location.steps_under]
    cases hlast : location.steps.getLast? <;> simp [List.getLast?_cons, hlast]
  rw [visit, visit, hlisting, Location.steps_under, reaches, misses]
  by_cases hknown : known (down template step.general) = true
  · simp [hknown]
  · rw [Bool.not_eq_true] at hknown
    by_cases hsteps : location.steps = []
    · cases step <;> simp [hknown, hsteps, pass, Step.container, listing]
    · simp [hknown, hsteps]

/-- **The walk below a value visits each location there**, in document order. -/
theorem below_eq_visits (template path : String) (container : Option ContainerKind)
    (value : Json) :
    below known template path value = enter known template value ++
      concat (value.descendants.map (visit known template path container)) := by
  induction value using Json.induction_children generalizing template path container with
  | step value ih =>
    rw [below_eq_children, Json.descendants_eq, List.map_flatMap, concat_flatMap]
    congr 2
    refine List.map_congr_left ?_
    rintro ⟨step, child⟩ hchild
    have hvisits : (child.locations.map (·.under step)).map (visit known template path container)
        = child.locations.map fun location ↦
            if known (down template step.general) then
              visit known (down template step.general) (downTo path step) (some step.container)
                location
            else if location.steps = [] then pass (downTo path step) step else {} := by
      rw [List.map_map]
      exact List.map_congr_left fun location _ ↦ visit_under step location
    rw [stepDown]
    dsimp only
    rw [hvisits]
    by_cases hknown : known (down template step.general) = true
    · simp only [hknown, if_true]
      rw [ih _ hchild _ _ (some step.container), Json.locations, List.map_cons, concat_cons,
        ← append_assoc]
      rfl
    · simp only [hknown, if_false, Bool.false_eq_true]
      rw [Json.locations, List.map_cons, concat_cons, if_pos rfl, concat_eq_empty, append_empty]
      exact fun location hlocation ↦ if_neg (Json.steps_ne_nil_of_mem_descendants hlocation)

/-! ## Reached locations -/

/-- The location that steps lead to is reached: the document is an object, and the templates of the
location and of all above it but the root are known. -/
def Reached (known : String → Bool) (document : Json) (steps : List LocationStep) : Prop :=
  document.isObject = true ∧ ∀ above ∈ steps.inits, above ≠ [] ∨ steps = [] →
    known (Path.template (above.map Step.general)) = true

/-- The walk stops at a location: it is not reached, but what it stands in is, or is the root. -/
def Stops (known : String → Bool) (document : Json) (steps : List LocationStep) : Prop :=
  steps ≠ [] ∧ ¬Reached known document steps ∧
    (steps.dropLast = [] ∨ Reached known document steps.dropLast)

def IsMember (steps : List LocationStep) : Prop := steps.getLast?.map Step.container = some .object

instance (known : String → Bool) (document : Json) :
    DecidablePred (Reached known document) := fun steps ↦
  inferInstanceAs (Decidable (_ ∧ ∀ above ∈ steps.inits, _ → _))

instance (known : String → Bool) (document : Json) : DecidablePred (Stops known document) :=
  fun _ ↦ inferInstanceAs (Decidable (_ ∧ _))

instance : DecidablePred IsMember := fun _ ↦ inferInstanceAs (Decidable (_ = _))

theorem reaches_append_singleton (above : List LocationStep) (last : LocationStep) :
    reaches known template (above ++ [last]) = (reaches known template above &&
      known (((above ++ [last]).map Step.general).foldl down template)) := by
  induction above generalizing template with
  | nil => simp [reaches]
  | cons step rest ih => simp [reaches, ih, Bool.and_assoc]

theorem misses_append_singleton (above : List LocationStep) (last : LocationStep) :
    misses known template (above ++ [last]) = (reaches known template above &&
      !known (((above ++ [last]).map Step.general).foldl down template) &&
        decide (last.container = .object)) := by
  induction above generalizing template with
  | nil =>
    simp only [List.nil_append, misses, reaches, List.map_singleton, List.foldl_cons,
      List.foldl_nil]
    cases known (down template last.general) <;> simp
  | cons step rest ih =>
    simp only [List.cons_append, misses, ih, reaches, List.map_cons, List.foldl_cons]
    cases known (down template step.general) <;> simp

theorem reaches_of_misses {steps : List LocationStep} (h : misses known template steps = true) :
    reaches known template steps = false := by
  induction steps using List.reverseRecOn with
  | nil => cases h
  | append_singleton above last _ =>
    rw [misses_append_singleton, Bool.and_eq_true, Bool.and_eq_true, Bool.not_eq_true'] at h
    rw [reaches_append_singleton, h.1.2, Bool.and_false]

theorem reaches_iff {steps : List LocationStep} :
    reaches known template steps = true ↔ ∀ above, above <+: steps → above ≠ [] →
      known ((above.map Step.general).foldl down template) = true := by
  induction steps using List.reverseRecOn with
  | nil => simp [reaches]
  | append_singleton above last ih =>
    rw [reaches_append_singleton, Bool.and_eq_true, ih]
    simp only [List.prefix_concat_iff]
    constructor
    · rintro ⟨habove, hlast⟩ prior (rfl | hprior) hne
      · exact hlast
      · exact habove prior hprior hne
    · intro h
      exact ⟨fun prior hprior hne ↦ h prior (.inr hprior) hne, h _ (.inl rfl) (by simp)⟩

section Document

variable {document : Json} {steps : List LocationStep}

theorem reached_iff (hobject : document.isObject = true) (hsteps : steps ≠ []) :
    Reached known document steps ↔ reaches known root steps = true := by
  rw [Reached, reaches_iff]
  simp [hobject, hsteps, Path.template, List.mem_inits]

theorem Reached.of_prefix (h : Reached known document steps) {above : List LocationStep}
    (hle : above <+: steps) (hne : above ≠ []) : Reached known document above := by
  refine ⟨h.1, fun prior hprior hcase ↦ ?_⟩
  have hin := (List.mem_inits _ _).mpr (((List.mem_inits _ _).mp hprior).trans hle)
  exact h.2 prior hin (.inl (hcase.resolve_right hne))

theorem stops_append_singleton (hobject : document.isObject = true)
    {above : List LocationStep} {last : LocationStep} :
    Stops known document (above ++ [last]) ↔ reaches known root above = true ∧
      known (Path.template ((above ++ [last]).map Step.general)) = false := by
  have hfull : above ++ [last] ≠ [] := by simp
  have habove : above = [] ∨ Reached known document above ↔ reaches known root above = true := by
    by_cases hnil : above = []
    · simp [hnil, reaches]
    · simp [hnil, reached_iff hobject hnil]
  rw [Stops, List.dropLast_concat, habove, reached_iff hobject hfull, reaches_append_singleton]
  cases reaches known root above <;> simp [Path.template]

theorem misses_iff (hobject : document.isObject = true) (hsteps : steps ≠ []) :
    misses known root steps = true ↔ Stops known document steps ∧ IsMember steps := by
  obtain ⟨above, last, rfl⟩ := (List.eq_nil_or_concat steps).resolve_left hsteps
  rw [List.concat_eq_append, misses_append_singleton, stops_append_singleton hobject, IsMember,
    List.getLast?_concat]
  simp [Path.template, and_assoc]

/-- Of two places on one way, the walk stops at one at most. -/
theorem Stops.eq_of_prefix {first second : List LocationStep}
    (hfirst : Stops known document first) (hsecond : Stops known document second)
    (hle : first <+: second) : first = second := by
  obtain ⟨above, last, rfl⟩ := (List.eq_nil_or_concat second).resolve_left hsecond.1
  rw [List.concat_eq_append] at hle hsecond ⊢
  rcases List.prefix_concat_iff.mp hle with heq | habove
  · exact heq
  · -- Everything above the place where the walk stops is reached.
    rw [Stops, List.dropLast_concat] at hsecond
    rcases hsecond.2.2 with rfl | hreached
    · exact absurd (List.prefix_nil.mp habove) hfirst.1
    · exact absurd (hreached.of_prefix habove hfirst.1) hfirst.2.1

theorem exists_stop (hsteps : steps ≠ []) (h : ¬Reached known document steps) :
    ∃ above, above <+: steps ∧ Stops known document above := by
  induction steps using List.reverseRecOn with
  | nil => exact absurd rfl hsteps
  | append_singleton above last ih =>
    by_cases habove : above = [] ∨ Reached known document above
    · exact ⟨_, List.prefix_rfl, hsteps, h, by rwa [List.dropLast_concat]⟩
    · rw [not_or] at habove
      obtain ⟨stop, hle, hstop⟩ := ih habove.1 habove.2
      exact ⟨stop, hle.trans (List.prefix_append above [last]), hstop⟩

/-- **A location is reached, or lies at or below one place where the walk stops.** -/
theorem reached_or_stopped (hsteps : steps ≠ []) :
    if Reached known document steps then ∀ above, above <+: steps → ¬Stops known document above
    else ∃! above, above <+: steps ∧ Stops known document above := by
  split
  · rename_i hreached
    exact fun above hle hstop ↦ hstop.2.1 (hreached.of_prefix hle hstop.1)
  · rename_i h
    obtain ⟨stop, hle, hstop⟩ := exists_stop hsteps h
    refine ⟨stop, ⟨hle, hstop⟩, fun other ⟨hother, hstops⟩ ↦ ?_⟩
    rcases List.prefix_or_prefix_of_prefix hother hle with habove | hbelow
    · exact hstops.eq_of_prefix hstop habove
    · exact (hstop.eq_of_prefix hstops hbelow).symm

end Document

/-! ## What the index holds -/

theorem flatMap_map_filter {α β γ : Type} (list : List α) (keep : α → Prop) [DecidablePred keep]
    (form : α → β) (seen : β → List γ) :
    ((list.filter fun a ↦ keep a).map form).flatMap seen
      = list.flatMap fun a ↦ if keep a then seen (form a) else [] := by
  induction list with
  | nil => rfl
  | cons a rest ih =>
    rw [List.filter_cons, List.flatMap_cons, ← ih]
    by_cases h : keep a <;> simp [h]

theorem flatMap_ite_singleton {α β : Type} (list : List α) (keep : α → Prop) [DecidablePred keep]
    (form : α → β) :
    (list.flatMap fun a ↦ if keep a then [form a] else [])
      = (list.filter fun a ↦ keep a).map form := by
  rw [← flatMap_map_filter list keep form ([·]), List.flatMap_singleton']

theorem seen_concat {β : Type} {seen : Index → List β} (hempty : seen {} = [])
    (happend : ∀ first second, seen (first ++ second) = seen first ++ seen second)
    (parts : List Index) : seen (concat parts) = parts.flatMap seen := by
  induction parts with
  | nil => exact hempty
  | cons part rest ih => rw [concat_cons, happend, ih, List.flatMap_cons]

theorem entries_concat (parts : List Index) (template : String) :
    (concat parts).entries template = parts.flatMap (·.entries template) :=
  @seen_concat _ (·.entries template) rfl (entries_append · · template) parts

theorem extraFields_concat (parts : List Index) :
    (concat parts).extraFields = parts.flatMap (·.extraFields) :=
  seen_concat rfl extraFields_append parts

theorem entered_concat (parts : List Index) :
    (concat parts).entered = parts.flatMap (·.entered) := seen_concat rfl entered_append parts

/-- A template is reached if something is listed for it or a list at the template above it was
entered. -/
theorem contains_iff_entries {index : Index} {template : String} :
    index.contains template = true ↔ index.entries template ≠ [] ∨ template ∈ index.entered := by
  have hlisted : index.listed.any (·.1 = template) = true ↔ index.entries template ≠ [] := by
    rw [ne_eq, entries, List.filterMap_eq_nil_iff, List.any_eq_true]
    simp
  rw [contains, Bool.or_eq_true, hlisted, List.contains_iff_mem]

section Visits

variable {location : Location}

theorem listing_root (location : Location) :
    listing root root none location = (location.template, location.entry) := by
  simp [listing, Location.template, Path.template, Location.entry, Location.path, concrete]

theorem visit_root (location : Location) :
    visit known root root none location
      = if reaches known root location.steps then
          single location.template location.entry ++
            enter known location.template location.value
        else if misses known root location.steps then extra location.path else {} := by
  rw [visit, listing_root]
  rfl

theorem enter_eq (template : String) (value : Json) :
    enter known template value = { entered := (enter known template value).entered } := by
  cases value with
  | array items => rw [enter]; split <;> rfl
  | null | bool _ | number _ | string _ | object _ => rfl

theorem entries_visit (location : Location) (template : String) :
    (visit known root root none location).entries template
      = if reaches known root location.steps = true ∧ location.template = template then
          [location.entry] else [] := by
  have hentered : ∀ entered, ({ entered } : Index).entries template = [] := fun _ ↦ rfl
  rw [visit_root, enter_eq]
  cases reaches known root location.steps with
  | true => simp [hentered]
  | false => cases misses known root location.steps <;> simp

theorem extraFields_visit (location : Location) :
    (visit known root root none location).extraFields
      = if misses known root location.steps = true then [location.path] else [] := by
  rw [visit_root, enter_eq]
  cases hmisses : misses known root location.steps with
  | true => simp [reaches_of_misses hmisses, extra]
  | false => cases reaches known root location.steps <;> simp [single]

theorem mem_entered_visit {template : String} :
    template ∈ (visit known root root none location).entered ↔
      reaches known root location.steps = true ∧ (∃ items, location.value = .array items) ∧
        template = element location.template ∧ known template = true := by
  have henter : template ∈ (enter known location.template location.value).entered ↔
      (∃ items, location.value = .array items) ∧ template = element location.template ∧
        known template = true := by
    cases location.value with
    | array items =>
      rw [enter]
      by_cases hknown : known (element location.template) = true
      · simp +contextual [hknown]
      · simp +contextual [hknown]
    | null | bool _ | number _ | string _ | object _ => simp [enter]
  rw [← henter, visit_root]
  cases reaches known root location.steps with
  | true => simp [single, Location.entry]
  | false => cases misses known root location.steps <;> simp [extra]

end Visits

/-! ## The account -/

/-- What an index has to hold of a document, for a set of known templates. -/
structure Accounts (known : String → Bool) (document : Json) (index : Index) : Prop where
  /-- The locations are exactly what steps lead to, -/
  mem_locations : ∀ location,
    location ∈ document.locations ↔ document.at? location.steps = some location.value
  /-- and none comes twice. -/
  nodup_locations : (document.locations.map (·.steps)).Nodup
  /-- A template has the root, if it is that of the root and known, and then every location but the
  root that is reached and has the template, in document order. -/
  entries_eq : ∀ template, index.entries template
    = (if template = root ∧ known root = true then [⟨root, document, none⟩] else []) ++
      (document.descendants.filter fun location ↦
        Reached known document location.steps ∧ location.template = template).map Location.entry
  /-- Extra are the members at which the walk stops, in document order. -/
  extraFields_eq : index.extraFields = (document.descendants.filter fun location ↦
    Stops known document location.steps ∧ IsMember location.steps).map Location.path
  /-- A template is reached if there are values for it, or it is known and that of the elements of a
  list that is reached. -/
  contains_iff : ∀ template, index.contains template = true ↔
    index.entries template ≠ [] ∨ known template = true ∧ ∃ location ∈ document.locations,
      Reached known document location.steps ∧ (∃ items, location.value = .array items) ∧
        template = element location.template
  /-- Every location but the root is reached, or lies at or below one where the walk stops. -/
  reached_or_stopped : ∀ location ∈ document.descendants,
    if Reached known document location.steps then
      ∀ above, above <+: location.steps → ¬Stops known document above
    else ∃! above, above <+: location.steps ∧ Stops known document above

theorem ofDocument_object (members : Members) :
    ofDocument known (.object members)
      = (if known root then single root ⟨root, .object members, none⟩ else {}) ++
        concat ((Json.object members).descendants.map (visit known root root none)) := by
  have hbelow : ofMembers known root root members
      = concat ((Json.object members).descendants.map (visit known root root none)) := by
    rw [← empty_append (concat _), ← below]
    exact below_eq_visits root root none (.object members)
  rw [ofDocument, hbelow]

theorem entries_ofDocument_object (members : Members) (template : String) :
    (ofDocument known (.object members)).entries template
      = (if template = root ∧ known root = true then [⟨root, .object members, none⟩] else []) ++
        ((Json.object members).descendants.filter fun location ↦
          reaches known root location.steps = true ∧ location.template = template).map
            Location.entry := by
  rw [ofDocument_object, entries_append, entries_concat, List.flatMap_map]
  simp only [entries_visit, flatMap_ite_singleton]
  congr 1
  cases known root with
  | true => simp [eq_comm]
  | false => simp

theorem extraFields_ofDocument_object (members : Members) :
    (ofDocument known (.object members)).extraFields
      = ((Json.object members).descendants.filter fun location ↦
          misses known root location.steps = true).map Location.path := by
  rw [ofDocument_object, extraFields_append, extraFields_concat, List.flatMap_map]
  simp only [extraFields_visit, flatMap_ite_singleton]
  cases known root <;> rfl

theorem mem_entered_ofDocument_object {members : Members} {template : String} :
    template ∈ (ofDocument known (.object members)).entered ↔
      ∃ location ∈ (Json.object members).descendants,
        reaches known root location.steps = true ∧ (∃ items, location.value = .array items) ∧
          template = element location.template ∧ known template = true := by
  have hstart : ∀ entry, (if known root then single root entry else {}).entered = [] := by
    intro entry
    split <;> rfl
  rw [ofDocument_object, entered_append, hstart, List.nil_append, entered_concat,
    List.flatMap_map, List.mem_flatMap]
  simp only [mem_entered_visit]

/-- A document that is no object has at most its root listed. -/
theorem ofDocument_of_not_isObject {document : Json} (h : document.isObject = false) :
    ofDocument known document = if known root then single root ⟨root, document, none⟩ else {} := by
  cases document with
  | object members => cases h
  | null | bool _ | number _ | string _ | array _ => rfl

theorem not_stops_of_not_isObject {document : Json} (hobject : document.isObject = false)
    {location : Location} (hlocation : location ∈ document.descendants) :
    ¬(Stops known document location.steps ∧ IsMember location.steps) := by
  rintro ⟨⟨hsteps, -, hnil | hreached⟩, hmember⟩
  · obtain ⟨⟨step, child⟩, hchild, below, hbelow, rfl⟩ := Json.mem_descendants.mp hlocation
    -- The location is a child of the root, and the root has no members.
    rw [Location.steps_under] at hnil hmember
    have hbelow : below.steps = [] := by
      cases hsteps : below.steps with
      | nil => rfl
      | cons next rest => simp [hsteps] at hnil
    rw [IsMember, hbelow] at hmember
    cases document with
    | object members => cases hobject
    | array items =>
      obtain ⟨position, item, -, heq⟩ := Json.mem_children_array.mp hchild
      cases heq
      cases hmember
    | null | bool _ | number _ | string _ => cases hchild
  · rw [hreached.1] at hobject
    cases hobject

/-- **The index accounts for every location**, for any set of known templates and any document in
which no object repeats a key. -/
theorem ofDocument_accounts (known : String → Bool) {document : Json} (h : document.KeysDistinct) :
    Accounts known document (ofDocument known document) where
  mem_locations location := h.mem_locations_iff
  nodup_locations := h.nodup_locations
  entries_eq template := by
    cases hobject : document.isObject with
    | true =>
      obtain ⟨members, rfl⟩ := Json.isObject_iff.mp hobject
      rw [entries_ofDocument_object]
      congr 2
      refine List.filter_congr fun location hlocation ↦ ?_
      simp only [reached_iff hobject (Json.steps_ne_nil_of_mem_descendants hlocation)]
    | false =>
      have hnone : ∀ location ∈ document.descendants,
          ¬(Reached known document location.steps ∧ location.template = template) := by
        intro location _ hreached
        rw [hreached.1.1] at hobject
        cases hobject
      rw [ofDocument_of_not_isObject hobject, List.filter_eq_nil_iff.mpr (by simpa using hnone)]
      cases known root <;> simp [eq_comm]
  extraFields_eq := by
    cases hobject : document.isObject with
    | true =>
      obtain ⟨members, rfl⟩ := Json.isObject_iff.mp hobject
      rw [extraFields_ofDocument_object]
      congr 1
      refine List.filter_congr fun location hlocation ↦ ?_
      simp only [misses_iff hobject (Json.steps_ne_nil_of_mem_descendants hlocation)]
    | false =>
      have hnone : ∀ location ∈ document.descendants,
          ¬(Stops known document location.steps ∧ IsMember location.steps) :=
        fun location hlocation ↦ not_stops_of_not_isObject hobject hlocation
      rw [ofDocument_of_not_isObject hobject, List.filter_eq_nil_iff.mpr (by simpa using hnone)]
      cases known root <;> rfl
  contains_iff template := by
    rw [contains_iff_entries]
    refine or_congr_right ?_
    cases hobject : document.isObject with
    | true =>
      obtain ⟨members, rfl⟩ := Json.isObject_iff.mp hobject
      rw [mem_entered_ofDocument_object]
      constructor
      · rintro ⟨location, hlocation, hreaches, hitems, htemplate, hknown⟩
        have hreached := (reached_iff hobject
          (Json.steps_ne_nil_of_mem_descendants hlocation)).mpr hreaches
        exact ⟨hknown, location, List.mem_cons_of_mem _ hlocation, hreached, hitems, htemplate⟩
      · rintro ⟨hknown, location, hlocation, hreached, ⟨items, hitems⟩, htemplate⟩
        rcases List.mem_cons.mp hlocation with rfl | hbelow
        · cases hitems
        · exact ⟨location, hbelow, (reached_iff hobject
            (Json.steps_ne_nil_of_mem_descendants hbelow)).mp hreached, ⟨items, hitems⟩,
            htemplate, hknown⟩
    | false =>
      have hentered : (ofDocument known document).entered = [] := by
        rw [ofDocument_of_not_isObject hobject]
        cases known root <;> rfl
      simp [hentered, Reached, hobject]
  reached_or_stopped location hlocation :=
    reached_or_stopped (Json.steps_ne_nil_of_mem_descendants hlocation)

/-- Templates that skip a level, and a key that looks like a place two levels down. -/
theorem ofDocument_accounts_skipping :
    let known : String → Bool := fun template ↦ ["a", "a.b", "a.c[].d"].contains template
    let inner := Json.object [("e", .null)]
    let document := Json.object [
      ("a", .object [("b", .bool true), ("c", .array [.object [("d", .null)]])]), ("a.b", inner)]
    let index := ofDocument known document
    Accounts known document index ∧
      index.entries "a.b" = [⟨"a.b", .bool true, some .object⟩, ⟨"a.b", inner, some .object⟩] ∧
      index.extraFields = ["a.c", "a.b.e"] := by
  intro known inner document index
  refine ⟨ofDocument_accounts known ?_, rfl, rfl⟩
  simp [document, inner, Json.KeysDistinct, Json.KeysDistinctMembers, Json.KeysDistinctItems]

end Index

end DocumentSchema
