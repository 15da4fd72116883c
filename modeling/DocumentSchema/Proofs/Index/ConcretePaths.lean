import DocumentSchema.Proofs.Index.Account
import DocumentSchema.Proofs.Path.Template

/-!
# Concrete paths tell places apart

A finding names its place by a concrete path and nothing else, so two places must never have the
same one. Where keys are identifiers the steps to a place are read back from its concrete path
(`Path.locationSteps_concrete`), whatever the keys and the indices are made of; a key may itself be
a number. The walk that builds the index comes to each location once, and either lists it or notes
it as extra. So no concrete path occurs twice in an index.

A concrete path also shows the template that it is a case of: it is what is left of the path when
the indices are erased from the brackets.
-/

namespace DocumentSchema

open DocumentSchema.Path

namespace Path

/-! ## Erasing indices -/

/-- What follows an opening bracket, without the index if it is one that is closed. -/
def withoutIndex (bracket : List Char) : List Char :=
  let after := bracket.dropWhile Char.isDigit
  if after.head? = some ']' then after else bracket

/-- A text without the indices in brackets. -/
def withoutIndices (text : List Char) : List Char :=
  match pieces '[' text with
  | [] => []
  | first :: brackets => first ++ brackets.flatMap fun bracket ↦ '[' :: withoutIndex bracket

/-- The path with empty brackets in place of every index in brackets. -/
def eraseIndices (path : String) : String := String.ofList (withoutIndices path.toList)

theorem withoutIndex_index {digits : List Char} (h : ∀ c ∈ digits, c.isDigit = true) :
    withoutIndex (digits ++ [']']) = [']'] := by
  have hclose : [']'].dropWhile Char.isDigit = [']'] := by decide
  rw [withoutIndex, List.dropWhile_append_of_pos h, hclose]
  rfl

/-- A dot closes no bracket, so what follows it does not matter. -/
theorem withoutIndex_append_dot (bracket rest : List Char) :
    withoutIndex (bracket ++ '.' :: rest) = withoutIndex bracket ++ '.' :: rest := by
  have hdot : ('.' :: rest).dropWhile Char.isDigit = '.' :: rest := by
    rw [List.dropWhile_cons_of_neg (by decide)]
  rw [withoutIndex, withoutIndex, List.dropWhile_append, hdot]
  rcases bracket.dropWhile Char.isDigit with _ | ⟨first, after⟩
  · simp
  · by_cases hfirst : first = ']' <;> simp [hfirst]

theorem withoutIndices_of_notMem {text : List Char} (h : '[' ∉ text) :
    withoutIndices text = text := by
  rw [withoutIndices, pieces_of_notMem h]
  simp

theorem withoutIndices_append_index (text : List Char) {digits : List Char}
    (h : ∀ c ∈ digits, c.isDigit = true) :
    withoutIndices (text ++ '[' :: (digits ++ [']'])) = withoutIndices text ++ ['[', ']'] := by
  have hopen : '[' ∉ digits ++ [']'] := by
    intro hmem
    rcases List.mem_append.mp hmem with hdigit | hclose
    · exact absurd (h _ hdigit) (by decide)
    · exact absurd hclose (by decide)
  obtain ⟨first, brackets, htext⟩ := List.exists_cons_of_ne_nil (pieces_ne_nil '[' text)
  rw [withoutIndices, pieces_append_separator_append, pieces_of_notMem hopen, withoutIndices, htext]
  simp [withoutIndex_index h]

theorem withoutIndices_append_dot (text : List Char) {key : List Char} (h : '[' ∉ key) :
    withoutIndices (text ++ '.' :: key) = withoutIndices text ++ '.' :: key := by
  have hrest : '[' ∉ '.' :: key := by simpa using h
  -- The key goes into what follows the last bracket, or into the text before the first.
  obtain ⟨before, last, htext, happend⟩ := exists_pieces_append hrest text
  rw [withoutIndices, happend, withoutIndices, htext]
  rcases before with _ | ⟨first, brackets⟩
  · simp
  · simp [withoutIndex_append_dot]

theorem open_mem_withoutIndices {text : List Char} (h : '[' ∈ text) :
    '[' ∈ withoutIndices text := by
  obtain ⟨first, brackets, htext⟩ := List.exists_cons_of_ne_nil (pieces_ne_nil '[' text)
  rcases brackets with _ | ⟨bracket, rest⟩
  · have hjoined := intercalate_pieces '[' text
    have hfirst : '[' ∉ first :=
      separator_notMem_of_mem_pieces (htext ▸ List.mem_singleton_self first)
    rw [htext, List.intercalate_singleton] at hjoined
    exact absurd (hjoined ▸ h) hfirst
  · rw [withoutIndices, htext]
    simp

theorem isRoot_of_open_mem {path : String} (h : '[' ∈ path.toList) : isRoot path = false := by
  rw [Bool.eq_false_iff, ne_eq, isRoot_iff]
  rintro (rfl | rfl)
  · exact absurd h (by decide)
  · exact absurd h (by decide)

theorem isRoot_eraseIndices (path : String) : isRoot (eraseIndices path) = isRoot path := by
  by_cases hopen : '[' ∈ path.toList
  · rw [isRoot_of_open_mem hopen, isRoot_of_open_mem]
    rw [eraseIndices, String.toList_ofList]
    exact open_mem_withoutIndices hopen
  · rw [eraseIndices, withoutIndices_of_notMem hopen, String.ofList_toList]

theorem eraseIndices_child (parent : String) {key : String} (h : IsIdentifier key) :
    eraseIndices (child parent key) = child (eraseIndices parent) key := by
  by_cases hroot : isRoot parent = true
  · rw [child_of_isRoot hroot, child_of_isRoot (isRoot_eraseIndices parent ▸ hroot), eraseIndices,
      withoutIndices_of_notMem h.open_notMem, String.ofList_toList]
  · rw [Bool.not_eq_true] at hroot
    rw [← String.toList_inj, toList_child (isRoot_eraseIndices parent ▸ hroot), eraseIndices,
      toList_child hroot, withoutIndices_append_dot _ h.open_notMem, eraseIndices,
      String.toList_ofList, String.toList_ofList]

theorem eraseIndices_concreteElement (path : String) (position : Nat) :
    eraseIndices (concreteElement path position) = element (eraseIndices path) := by
  have hdigits : ∀ c ∈ (toString position).toList, c.isDigit = true := by
    intro c hc
    exact isDigit_of_mem_toString hc
  rw [← String.toList_inj, toList_element, eraseIndices, concreteElement, toList_append_bracket,
    withoutIndices_append_index _ hdigits, eraseIndices, String.toList_ofList,
    String.toList_ofList]

theorem eraseIndices_downTo (path : String) {step : LocationStep} (h : step.IsWritable) :
    eraseIndices (downTo path step) = down (eraseIndices path) step.general := by
  rcases step with key | position
  · exact eraseIndices_child path h
  · exact eraseIndices_concreteElement path position

variable {route : List LocationStep}

/-- **Without the indices a concrete path is the template** of the same steps. -/
theorem eraseIndices_concrete (h : ∀ step ∈ route, step.IsWritable) :
    eraseIndices (concrete route) = template (route.map Step.general) := by
  induction route using List.reverseRecOn with
  | nil => decide
  | append_singleton route step ih =>
    obtain ⟨hroute, hstep⟩ := List.forall_mem_append.mp h
    rw [concrete_append_singleton, eraseIndices_downTo _ (hstep step (List.mem_singleton_self step)),
      ih hroute, List.map_append, List.map_singleton, template_append_singleton]

/-- Only digits are an index, and only in brackets that are closed. -/
example : eraseIndices "a[0].7[12][x][][3" = "a[].7[][x][][3" := by decide

end Path

/-! ## Locations of a document -/

theorem Json.Addressable.nodup_paths {document : Json} (h : document.Addressable) :
    (document.locations.map Location.path).Nodup := by
  have hwritable : ∀ steps ∈ document.locations.map (·.steps), ∀ step ∈ steps,
      step.IsWritable := by
    intro steps hsteps
    obtain ⟨location, hlocation, rfl⟩ := List.mem_map.mp hsteps
    exact h.isWritable_of_at? (h.keysDistinct.mem_locations_iff.mp hlocation)
  have hconcrete := h.keysDistinct.nodup_locations.map_on fun first hfirst second hsecond heq ↦
    eq_of_concrete_eq (hwritable first hfirst) (hwritable second hsecond) heq
  rwa [List.map_map] at hconcrete

namespace Index

variable {known : String → Bool}

/-! ## Concrete paths of an index -/

def listedPaths (index : Index) : List String := index.listed.map (·.2.path)

theorem listedPaths_append (first second : Index) :
    (first ++ second).listedPaths = first.listedPaths ++ second.listedPaths := List.map_append

theorem listedPaths_visit (location : Location) :
    (visit known root root none location).listedPaths
      = if reaches known root location.steps = true then [location.path] else [] := by
  rw [listedPaths, visit_root, enter_eq]
  cases reaches known root location.steps with
  | true => rfl
  | false => cases misses known root location.steps <;> rfl

theorem listedPaths_ofDocument_object (members : Members) :
    (ofDocument known (.object members)).listedPaths
      = (if known root then [root] else []) ++
        ((Json.object members).descendants.filter fun location ↦
          reaches known root location.steps = true).map Location.path := by
  rw [ofDocument_object, listedPaths_append, seen_concat rfl listedPaths_append,
    List.flatMap_map]
  simp only [listedPaths_visit, flatMap_ite_singleton]
  cases known root <;> rfl

/-- What is listed of an object are locations that are reached, its root among them. -/
theorem listedPaths_sublist (members : Members) :
    (ofDocument known (.object members)).listedPaths.Sublist
      (((Json.object members).locations.filter fun location ↦
        reaches known root location.steps = true).map Location.path) := by
  have hroot : reaches known root [] = true := rfl
  rw [listedPaths_ofDocument_object, Json.locations, List.filter_cons_of_pos (by simp [hroot]),
    List.map_cons]
  cases known root with
  | true => exact List.Sublist.refl _
  | false => exact List.sublist_cons_self _ _

theorem extraFields_sublist (members : Members) :
    (ofDocument known (.object members)).extraFields.Sublist
      (((Json.object members).locations.filter fun location ↦
        misses known root location.steps = true).map Location.path) := by
  rw [extraFields_ofDocument_object]
  exact ((List.sublist_cons_self _ _).filter _).map _

/-- Two parts of a list that exclude each other show nothing twice, if the list does not. -/
theorem nodup_map_filter_append {α β : Type} {list : List α} {form : α → β}
    (h : (list.map form).Nodup) {first second : α → Bool}
    (hapart : ∀ a, second a = true → first a = false) :
    ((list.filter first).map form ++ (list.filter second).map form).Nodup := by
  rw [List.nodup_append]
  refine ⟨(List.filter_sublist.map form).nodup h, (List.filter_sublist.map form).nodup h, ?_⟩
  intro b hb c hc heq
  obtain ⟨x, hx, rfl⟩ := List.mem_map.mp hb
  obtain ⟨y, hy, rfl⟩ := List.mem_map.mp hc
  obtain ⟨hxmem, hxfirst⟩ := List.mem_filter.mp hx
  obtain ⟨hymem, hysecond⟩ := List.mem_filter.mp hy
  obtain rfl := List.inj_on_of_nodup_map h hxmem hymem heq
  rw [hapart x hysecond] at hxfirst
  cases hxfirst

/-- **No concrete path occurs twice in an index**, be it listed or extra. -/
theorem nodup_paths_ofDocument (known : String → Bool) {document : Json}
    (h : document.Addressable) :
    ((ofDocument known document).listedPaths ++ (ofDocument known document).extraFields).Nodup := by
  cases hobject : document.isObject with
  | true =>
    obtain ⟨members, rfl⟩ := Json.isObject_iff.mp hobject
    refine ((listedPaths_sublist members).append (extraFields_sublist members)).nodup ?_
    refine nodup_map_filter_append h.nodup_paths fun location hmisses ↦ ?_
    rw [decide_eq_true_eq] at hmisses
    simp [reaches_of_misses hmisses]
  | false =>
    rw [ofDocument_of_not_isObject hobject]
    cases known root <;> simp [listedPaths, single]

/-- In an index every concrete path stands for one thing. -/
structure PathsApart (index : Index) : Prop where
  /-- No two values of a template have one, -/
  entries : ∀ template, ((index.entries template).map (·.path)).Nodup
  /-- nor do values of different templates, -/
  templates : ∀ first second, ∀ entry ∈ index.entries first, ∀ other ∈ index.entries second,
    entry.path = other.path → first = second
  /-- nor do two extra members, -/
  extraFields : index.extraFields.Nodup
  /-- nor do a value and an extra member. -/
  extra : ∀ template, ∀ entry ∈ index.entries template, entry.path ∉ index.extraFields

theorem mem_listed_of_mem_entries {index : Index} {template : String} {entry : IndexEntry}
    (h : entry ∈ index.entries template) : (template, entry) ∈ index.listed := by
  obtain ⟨⟨found, listed⟩, hlisted, hentry⟩ := List.mem_filterMap.mp h
  obtain ⟨rfl, heq⟩ := Option.ite_none_right_eq_some.mp hentry
  exact Option.some.inj heq ▸ hlisted

theorem map_path_entries_sublist (index : Index) (template : String) :
    ((index.entries template).map (·.path)).Sublist index.listedPaths := by
  rw [entries, listedPaths]
  induction index.listed with
  | nil => exact List.Sublist.refl _
  | cons listing rest ih =>
    obtain ⟨found, entry⟩ := listing
    by_cases h : found = template
    · simpa [h] using ih
    · simpa [h] using ih.cons entry.path

theorem pathsApart_of_nodup {index : Index}
    (h : (index.listedPaths ++ index.extraFields).Nodup) : index.PathsApart := by
  obtain ⟨hlisted, hextra, hapart⟩ := List.nodup_append.mp h
  refine ⟨fun template ↦ (map_path_entries_sublist index template).nodup hlisted, ?_, hextra, ?_⟩
  · intro first second entry hentry other hother heq
    have hsame := List.inj_on_of_nodup_map hlisted (mem_listed_of_mem_entries hentry)
      (mem_listed_of_mem_entries hother) heq
    exact congrArg Prod.fst hsame
  · intro template entry hentry hmem
    have hpath : entry.path ∈ index.listedPaths :=
      List.mem_map_of_mem (mem_listed_of_mem_entries hentry)
    exact hapart _ hpath _ hmem rfl

end Index

/-- **Concrete paths identify locations.** Steps that are written alike are the same, and without
the indices they are the template. So whatever templates are known, nothing that the index has of a
document shares its concrete path with anything else there. -/
theorem concretePaths_identify :
    (∀ first second : List LocationStep, (∀ step ∈ first, step.IsWritable) →
      (∀ step ∈ second, step.IsWritable) → concrete first = concrete second → first = second) ∧
      (∀ route : List LocationStep, (∀ step ∈ route, step.IsWritable) →
        eraseIndices (concrete route) = template (route.map Step.general)) ∧
      ∀ (known : String → Bool) (document : Json), document.Addressable →
        (Index.ofDocument known document).PathsApart := by
  refine ⟨?_, ?_, ?_⟩
  · intro first second hfirst hsecond h
    exact eq_of_concrete_eq hfirst hsecond h
  · intro route hroute
    exact eraseIndices_concrete hroute
  · intro known document hdocument
    exact Index.pathsApart_of_nodup (Index.nodup_paths_ofDocument known hdocument)

/-- Keys that look like indices, and indices that run together if the brackets are left out. -/
theorem concretePaths_identify_digits :
    let first : List LocationStep := [.member "1", .element 1, .element 12, .member "0"]
    let second : List LocationStep := [.member "1", .element 11, .element 2, .member "0"]
    let known : String → Bool := fun template ↦ ["1", "1[]", "1[][]", "0"].contains template
    let inner := Json.object [("0", .null), ("1", .null)]
    let document := Json.object [
      ("1", .array [.array [inner, .null], inner]), ("0", .array [.null]), ("10", .null)]
    concrete first ≠ concrete second ∧ eraseIndices "1[1][12].0" = "1[][].0" ∧
      (Index.ofDocument known document).PathsApart ∧
      (Index.ofDocument known document).listedPaths
        = ["1", "1[0]", "1[0][0]", "1[0][1]", "1[1]", "0"] ∧
      (Index.ofDocument known document).extraFields
        = ["1[0][0].0", "1[0][0].1", "1[1].0", "1[1].1", "10"] := by
  intro first second known inner document
  have hfirst : ∀ step ∈ first, step.IsWritable := by decide
  have hsecond : ∀ step ∈ second, step.IsWritable := by decide
  have hdocument : document.Addressable := by
    refine ⟨?_, by decide⟩
    simp [document, inner, Json.KeysDistinct, Json.KeysDistinctMembers, Json.KeysDistinctItems]
  obtain ⟨hidentify, herase, hapart⟩ := concretePaths_identify
  refine ⟨fun heq ↦ ?_, herase first hfirst, hapart known document hdocument, rfl, rfl⟩
  exact absurd (hidentify first second hfirst hsecond heq) (by decide)

end DocumentSchema
