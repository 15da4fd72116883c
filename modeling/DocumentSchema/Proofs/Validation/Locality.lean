import DocumentSchema.Proofs.Document.Replacement
import DocumentSchema.Proofs.Index.Account
import DocumentSchema.Proofs.Validation.Order

/-!
# Findings are local

Another value at a place of a document changes no finding about anything that is neither the place
nor below it: these findings stay the same, in the same order. A check of a value above sees its
shape only, an object above has its members under the same keys, and the walk that builds the index
comes to the same places and stops at the same ones.

Which findings are about the place or below is read off their texts: such a field is the path of the
place or goes on from it with a dot or a bracket.
-/

namespace DocumentSchema

open DocumentSchema.Path

variable {value : Json} {steps : List LocationStep} {place path : String}

/-! ## Paths at and below a place -/

namespace Path

/-- The path is that of a place, or goes on from it with a dot or a bracket. -/
def IsAtOrBelow (place path : String) : Prop :=
  path = place ∨ (place ++ ".").toList <+: path.toList ∨ (place ++ "[").toList <+: path.toList

instance (place : String) : DecidablePred (IsAtOrBelow place) := fun _ ↦
  inferInstanceAs (Decidable (_ ∨ _ ∨ _))

theorem isAtOrBelow_iff : IsAtOrBelow place path ↔
    ∃ rest, path.toList = place.toList ++ rest ∧ ∀ first ∈ rest.head?, first = '.' ∨ first = '[' := by
  have hdot : (place ++ ".").toList = place.toList ++ ['.'] := String.toList_append
  have hopen : (place ++ "[").toList = place.toList ++ ['['] := String.toList_append
  rw [IsAtOrBelow, hdot, hopen]
  constructor
  · rintro (rfl | ⟨rest, hrest⟩ | ⟨rest, hrest⟩)
    · exact ⟨[], by simp⟩
    · exact ⟨'.' :: rest, by rw [← hrest]; simp, by simp⟩
    · exact ⟨'[' :: rest, by rw [← hrest]; simp, by simp⟩
  · rintro ⟨rest, hpath, hfirst⟩
    cases rest with
    | nil => exact .inl (String.toList_inj.mp (by simpa using hpath))
    | cons first rest =>
      rcases hfirst first rfl with rfl | rfl
      · exact .inr (.inl ⟨rest, by simp [hpath]⟩)
      · exact .inr (.inr ⟨rest, by simp [hpath]⟩)

theorem IsAtOrBelow.isRoot_eq_false (h : IsAtOrBelow place path) (hplace : isRoot place = false) :
    isRoot path = false := by
  obtain ⟨rest, hpath, -⟩ := isAtOrBelow_iff.mp h
  rw [Bool.eq_false_iff, ne_eq, isRoot_iff, not_or] at hplace ⊢
  have hne : place.toList ≠ [] := fun hnil ↦ hplace.1 (String.toList_eq_nil_iff.mp hnil)
  constructor
  · rintro rfl
    rw [String.toList_empty] at hpath
    exact hne (List.append_eq_nil_iff.mp hpath.symm).1
  · rintro rfl
    -- A text of one character leaves nothing to go on with.
    obtain ⟨first, others, hfirst⟩ := List.exists_cons_of_ne_nil hne
    rw [hfirst, show root.toList = ['.'] from by decide, List.cons_append, List.cons.injEq] at hpath
    obtain ⟨rfl, hrest⟩ := hpath
    rw [(List.append_eq_nil_iff.mp hrest.symm).1] at hfirst
    exact hplace.2 (String.toList_inj.mp hfirst)

theorem exists_toList_downTo (hpath : isRoot path = false) (step : LocationStep) :
    ∃ first rest, (downTo path step).toList = path.toList ++ first :: rest ∧
      (first = '.' ∨ first = '[') := by
  cases step with
  | member key =>
    refine ⟨'.', key.toList, ?_, .inl rfl⟩
    rw [downTo, child, if_neg (by simp [hpath]), String.toList_append, String.toList_append,
      show ".".toList = ['.'] from by decide, List.append_assoc, List.singleton_append]
  | element position =>
    refine ⟨'[', (toString position ++ "]").toList, ?_, .inr rfl⟩
    rw [downTo, concreteElement, String.append_assoc, String.toList_append, String.toList_append,
      show "[".toList = ['['] from by decide, List.append_assoc, List.singleton_append]

theorem IsAtOrBelow.downTo (h : IsAtOrBelow place path) (hplace : isRoot place = false)
    (step : LocationStep) : IsAtOrBelow place (downTo path step) := by
  obtain ⟨first, more, hdown, hcase⟩ := exists_toList_downTo (h.isRoot_eq_false hplace) step
  obtain ⟨rest, hpath, hrest⟩ := isAtOrBelow_iff.mp h
  refine isAtOrBelow_iff.mpr ⟨rest ++ first :: more, by rw [hdown, hpath, List.append_assoc], ?_⟩
  cases rest with
  | nil => simpa using hcase
  | cons other rest => exact hrest

/-- **What lies below a place is written so.** -/
theorem isAtOrBelow_concrete_append (hplace : isRoot (concrete steps) = false)
    (more : List LocationStep) : IsAtOrBelow (concrete steps) (concrete (steps ++ more)) := by
  induction more using List.reverseRecOn with
  | nil => exact .inl (by rw [List.append_nil])
  | append_singleton more step ih =>
    rw [← List.append_assoc, concrete_append_singleton]
    exact ih.downTo hplace step

theorem isRoot_concrete (h : ∀ step ∈ steps, step.IsWritable) (hsteps : steps ≠ []) :
    isRoot (concrete steps) = false := by
  have hread := locationSteps_concrete h
  rw [Bool.eq_false_iff, ne_eq, isRoot_iff]
  rintro (hempty | hroot)
  · rw [hempty, locationSteps, readSteps_empty] at hread
    exact hsteps hread.symm
  · rw [hroot, locationSteps_root] at hread
    exact hsteps hread.symm

end Path

/-! ## The index -/

namespace Index

variable {known : String → Bool} {members replaced : Members}

/-- What is seen in listed values does not depend on the place that steps lead to. -/
structure BlindTo {β : Type} (steps : List LocationStep) (seen : IndexEntry → List β) : Prop where
  below : ∀ more value container, seen ⟨concrete (steps ++ more), value, container⟩ = []
  shape : ∀ path container first second, Json.SameShape first second →
    seen ⟨path, first, container⟩ = seen ⟨path, second, container⟩

theorem BlindTo.flatMap_entries_replace {β : Type} {seen : IndexEntry → List β}
    (h : BlindTo steps seen) (hsteps : steps ≠ [])
    (hreplaced : (Json.object members).replace steps value = .object replaced)
    (template : String) :
    ((ofDocument known (.object replaced)).entries template).flatMap seen
      = ((ofDocument known (.object members)).entries template).flatMap seen := by
  have hblind : DocumentSchema.BlindTo steps fun location : Location ↦
      if reaches known root location.steps = true ∧ location.template = template then
        seen location.entry else [] := by
    constructor
    · rintro location ⟨more, hmore⟩
      have hentry : location.entry
          = ⟨concrete (steps ++ more), location.value, location.entry.container⟩ := by
        rw [hmore]
        rfl
      rw [hentry, h.below, ite_self]
    · intro route first second hshape
      have hseen : seen (Location.entry ⟨route, first⟩) = seen (Location.entry ⟨route, second⟩) :=
        h.shape _ _ first second hshape
      rw [hseen]
      rfl
  have hroot : (Json.object replaced).SameShape (.object members) := by
    obtain ⟨step, rest, rfl⟩ := List.exists_cons_of_ne_nil hsteps
    exact hreplaced ▸ Json.sameShape_replace_cons _ _
  rw [entries_ofDocument_object, entries_ofDocument_object, List.flatMap_append,
    List.flatMap_append, flatMap_map_filter, flatMap_map_filter, ← hreplaced,
    hblind.flatMap_descendants_replace hsteps, hreplaced]
  congr 1
  split
  · simp [h.shape root none _ _ hroot]
  · rfl

theorem flatMap_extraFields_replace {β : Type} {seen : String → List β}
    (h : ∀ more, seen (concrete (steps ++ more)) = []) (hsteps : steps ≠ [])
    (hreplaced : (Json.object members).replace steps value = .object replaced) :
    (ofDocument known (.object replaced)).extraFields.flatMap seen
      = (ofDocument known (.object members)).extraFields.flatMap seen := by
  have hblind : DocumentSchema.BlindTo steps fun location : Location ↦
      if misses known root location.steps = true then seen location.path else [] := by
    constructor
    · rintro location ⟨more, hmore⟩
      rw [Location.path, ← hmore, h, ite_self]
    · exact fun route first second _ ↦ rfl
  rw [extraFields_ofDocument_object, extraFields_ofDocument_object, flatMap_map_filter,
    flatMap_map_filter, ← hreplaced, hblind.flatMap_descendants_replace hsteps]

end Index

/-! ## Findings elsewhere -/

/-- The findings that are neither about a place nor about anything below it. -/
def elsewhere (place : String) (findings : List Message) : List Message :=
  findings.filter fun finding ↦ ¬IsAtOrBelow place finding.field

@[simp] theorem elsewhere_append (place : String) (first second : List Message) :
    elsewhere place (first ++ second) = elsewhere place first ++ elsewhere place second :=
  List.filter_append ..

theorem elsewhere_flatMap {α : Type} (place : String) (list : List α)
    (findings : α → List Message) :
    elsewhere place (list.flatMap findings) = list.flatMap fun a ↦ elsewhere place (findings a) :=
  List.filter_flatMap ..

theorem elsewhere_map {α : Type} (place : String) {list : List α} {finding : α → Message}
    {field : α → String} (h : ∀ a, (finding a).field = field a) :
    elsewhere place (list.map finding)
      = (list.filter fun a ↦ ¬IsAtOrBelow place (field a)).map finding := by
  rw [elsewhere, List.filter_map]
  simp only [Function.comp_def, h]

theorem elsewhere_eq_nil {findings : List Message}
    (h : ∀ finding ∈ findings, IsAtOrBelow place finding.field) : elsewhere place findings = [] :=
  List.filter_eq_nil_iff.mpr fun finding hfinding ↦ by simpa using h finding hfinding

/-! ## Values and members -/

/-- A check sees of a container no more than its shape. -/
theorem Check.run_eq_of_sameShape {check : Check} (hcheck : check.type ≠ .custom)
    {first second : Json} (h : first.SameShape second) (path : String) :
    check.run path first = check.run path second := by
  cases h with
  | refl => rfl
  | object _ =>
    cases check with
    | custom function params => exact absurd rfl hcheck
    | any | object | boolean | list _ | number _ | integer _ | text _ => rfl
  | array hlength =>
    cases check with
    | custom function params => exact absurd rfl hcheck
    | list limits => rw [run, run, checkList, checkList, hlength]
    | any | object | boolean | number _ | integer _ | text _ => rfl

namespace Schema

variable {schema : Schema} {members replaced : Members}

theorem field_of_mem_outcomes {field : FieldDefinition}
    (hplain : ∀ rule ∈ field.rules, rule.check.type ≠ .custom) {finding : Message}
    (h : finding ∈ (field.outcomes path value).filterMap found) : finding.field = path := by
  obtain ⟨outcome, houtcome, hfound⟩ := List.mem_filterMap.mp h
  rw [FieldDefinition.outcomes] at houtcome
  split at houtcome
  · split at houtcome
    · cases houtcome
    · rw [List.mem_singleton.mp houtcome] at hfound
      rw [← Option.some.inj hfound]
      rfl
  · obtain ⟨rule, hrule, rfl⟩ := List.mem_map.mp houtcome
    cases hrun : rule.check.run path value with
    | error error => rw [hrun] at hfound; cases hfound
    | ok answer =>
      rw [hrun] at hfound
      exact (Check.isFinding_of_run (hplain rule hrule) (hrun.trans (congrArg _ hfound))).field_eq

theorem blindTo_outcomes {field : FieldDefinition}
    (hplain : ∀ rule ∈ field.rules, rule.check.type ≠ .custom)
    (hplace : isRoot (concrete steps) = false) :
    Index.BlindTo steps fun entry ↦
      elsewhere (concrete steps) ((field.outcomes entry.path entry.value).filterMap found) where
  below more value container := elsewhere_eq_nil fun finding hfinding ↦ by
    rw [field_of_mem_outcomes hplain hfinding]
    exact isAtOrBelow_concrete_append hplace more
  shape path container first second hshape := by
    have hrules : field.rules.map (fun rule ↦ rule.check.run path first)
        = field.rules.map fun rule ↦ rule.check.run path second :=
      List.map_congr_left fun rule hrule ↦
        Check.run_eq_of_sameShape (hplain rule hrule) hshape path
    simp only [FieldDefinition.outcomes, hshape.isNull_eq, hrules]

theorem blindTo_missingFrom (key : String) (hplace : isRoot (concrete steps) = false) :
    Index.BlindTo steps fun entry ↦
      elsewhere (concrete steps) (missingFrom key entry).toList where
  below more value container := elsewhere_eq_nil fun finding hfinding ↦ by
    have hfield : finding.field = child (concrete (steps ++ more)) key := by
      rw [Option.mem_toList, missingFrom.eq_def] at hfinding
      split at hfinding
      · split at hfinding
        · cases hfinding
        · rw [← Option.some.inj hfinding]
          rfl
      · cases hfinding
    rw [hfield]
    exact (isAtOrBelow_concrete_append hplace more).downTo hplace (.member key)
  shape path container first second hshape := by
    cases hshape with
    | refl => rfl
    | object hkeys =>
      rename_i firstMembers secondMembers
      have hcontains : Entries.contains firstMembers key = Entries.contains secondMembers key := by
        rw [Bool.eq_iff_iff, Entries.contains_iff, Entries.contains_iff, hkeys]
      simp only [missingFrom, hcontains]
    | array _ => rfl

/-! ## Validation -/

theorem elsewhere_outcomes_replace (hnodup : schema.paths.Nodup)
    (hplain : schema.EveryRule fun rule ↦ rule.check.type ≠ .custom)
    (hplace : isRoot (concrete steps) = false) (hsteps : steps ≠ [])
    (hreplaced : (Json.object members).replace steps value = .object replaced) :
    elsewhere (concrete steps)
        ((schema.outcomes (Index.ofDocument schema.knows (.object replaced))).filterMap found)
      = elsewhere (concrete steps)
          ((schema.outcomes (Index.ofDocument schema.knows (.object members))).filterMap found) := by
  simp only [outcomes_eq hnodup, List.filterMap_flatMap, elsewhere_flatMap]
  exact List.flatMap_congr fun path _ ↦
    (blindTo_outcomes (hplain path) hplace).flatMap_entries_replace hsteps hreplaced path

theorem elsewhere_reportMissing_replace (schema : Schema)
    (hplace : isRoot (concrete steps) = false) (hsteps : steps ≠ [])
    (hreplaced : (Json.object members).replace steps value = .object replaced) :
    elsewhere (concrete steps)
        (schema.reportMissing (Index.ofDocument schema.knows (.object replaced)))
      = elsewhere (concrete steps)
          (schema.reportMissing (Index.ofDocument schema.knows (.object members))) := by
  rw [reportMissing, reportMissing, elsewhere_flatMap, elsewhere_flatMap]
  refine List.flatMap_congr ?_
  rintro ⟨path, field⟩ -
  dsimp only
  rw [missingAt, missingAt]
  split
  · rfl
  · cases splitLast? path with
    | none => rfl
    | some above =>
      obtain ⟨parent, key⟩ := above
      simp only [List.filterMap_eq_flatMap_toList, elsewhere_flatMap]
      exact (blindTo_missingFrom key hplace).flatMap_entries_replace hsteps hreplaced parent

theorem elsewhere_reportExtra_replace (schema : Schema)
    (hplace : isRoot (concrete steps) = false) (hsteps : steps ≠ [])
    (hreplaced : (Json.object members).replace steps value = .object replaced) :
    elsewhere (concrete steps)
        (schema.reportExtra (Index.ofDocument schema.knows (.object replaced)))
      = elsewhere (concrete steps)
          (schema.reportExtra (Index.ofDocument schema.knows (.object members))) := by
  rw [reportExtra, reportExtra]
  split
  · rfl
  · rw [List.map_eq_flatMap, List.map_eq_flatMap, elsewhere_flatMap, elsewhere_flatMap]
    refine Index.flatMap_extraFields_replace (fun more ↦ elsewhere_eq_nil ?_) hsteps hreplaced
    intro finding hfinding
    rw [List.mem_singleton.mp hfinding]
    exact isAtOrBelow_concrete_append hplace more

/-- **Findings are local.** With another value at a place of a document, the findings that are
neither about the place nor about anything below it are the same as before, in the same order.
Nothing is asked of the value. -/
theorem validate_replace {declarations : List Declaration}
    (hcompile : compile declarations = .ok schema)
    (hplain : schema.EveryRule fun rule ↦ rule.type ≠ .custom)
    (hdocument : (Json.object members).Addressable) (hsteps : steps ≠ []) {old : Json}
    (hlocation : (Json.object members).at? steps = some old) (value : Json) (context : Members) :
    ∃ before after,
      schema.validate (.object members) context = .ok before ∧
      schema.validate ((Json.object members).replace steps value) context = .ok after ∧
      elsewhere (concrete steps) after = elsewhere (concrete steps) before := by
  have hreachable := reachable_of_compile hcompile
  have hnodup := hreachable.nodup_paths
  have hchecks : schema.EveryRule fun rule ↦ rule.check.type ≠ .custom :=
    fun path rule hrule ↦ (hreachable.check_type path rule hrule).trans_ne (hplain path rule hrule)
  have htotal : schema.EveryRule fun rule ↦ rule.check.Total :=
    fun path rule hrule ↦ Check.total_of_ne_custom (hchecks path rule hrule)
  have hplace := isRoot_concrete (hdocument.isWritable_of_at? hlocation) hsteps
  obtain ⟨replaced, hreplaced⟩ : ∃ replaced,
      (Json.object members).replace steps value = .object replaced := by
    obtain ⟨step, rest, rfl⟩ := List.exists_cons_of_ne_nil hsteps
    exact ⟨_, rfl⟩
  have hcontext : ∀ findings : List Message,
      elsewhere (concrete steps) (findings.map (·.extendContext context))
        = (elsewhere (concrete steps) findings).map (·.extendContext context) :=
    fun findings ↦ elsewhere_map _ fun finding ↦ finding.field_extendContext context
  rw [hreplaced]
  refine ⟨_, _, validate_eq_ok hnodup htotal members context,
    validate_eq_ok hnodup htotal replaced context, ?_⟩
  rw [hcontext, hcontext]
  congr 1
  simp only [knownFindings, elsewhere_append]
  rw [elsewhere_outcomes_replace hnodup hchecks hplace hsteps hreplaced,
    elsewhere_reportMissing_replace schema hplace hsteps hreplaced,
    elsewhere_reportExtra_replace schema hplace hsteps hreplaced]

/-- One element of a list is replaced: what is found in the other, in the other members and about
what is missing from them stays. -/
theorem validate_replace_element :
    let declarations := [Declaration.field "a[]" .required (.named "integer"),
      .field "b.d" .required (.named "integer")]
    let document := Json.object
      [("a", .array [.bool true, .null]), ("b", .object []), ("c", .null)]
    let replaced := Json.object
      [("a", .array [.object [("e", .null)], .null]), ("b", .object []), ("c", .null)]
    ∃ schema before after, compile declarations = .ok schema ∧
      schema.validate document [] = .ok before ∧ schema.validate replaced [] = .ok after ∧
      elsewhere "a[0]" after = elsewhere "a[0]" before ∧
      (elsewhere "a[0]" before).map (·.field) = ["a[1]", "b.d", "c"] := by
  intro declarations document replaced
  obtain ⟨schema, hcompile, hplain, hseen⟩ : ∃ schema, compile declarations = .ok schema ∧
      (∀ field ∈ schema.fields, ∀ rule ∈ field.2.rules, rule.type ≠ .custom) ∧
      (schema.validate document []).map (fun findings ↦
        (elsewhere "a[0]" findings).map (·.field)) = .ok ["a[1]", "b.d", "c"] :=
    ⟨_, rfl, by decide, rfl⟩
  have hdocument : document.Addressable :=
    ⟨by simp [document, Json.KeysDistinct, Json.KeysDistinctMembers, Json.KeysDistinctItems],
      by decide⟩
  have hlocation : document.at? [.member "a", .element 0] = some (.bool true) := rfl
  obtain ⟨before, after, hbefore, hafter, hsame⟩ := validate_replace hcompile
    (everyRule_of_fields hplain) hdocument (by simp) hlocation (.object [("e", .null)]) []
  rw [hbefore] at hseen
  exact ⟨schema, before, after, hcompile, hbefore, hafter, hsame, Except.ok.inj hseen⟩

end Schema

end DocumentSchema
