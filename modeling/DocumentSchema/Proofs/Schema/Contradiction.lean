import DocumentSchema.Proofs.Check.Faults
import DocumentSchema.Proofs.Schema.Rules
import Mathlib.Data.List.Infix

/-!
# Declarations that fail

A declaration that is wrong by itself changes nothing. One that contradicts what was declared
before has met some demands of its walk by then, and these stay met. But a walk goes up and comes
to no path twice, so meeting a demand does not show in what is known of the paths that are still to
come: the first contradiction of the walk can be told from the schema before the declaration, and
from the path of that contradiction upwards nothing has changed.

`Path.upwards` lists the paths that a walk comes to without saying what it asks of them.
-/

namespace DocumentSchema

open DocumentSchema.Path

/-! ## The paths of a walk -/

namespace Path

/-- A path and all paths above it, up to the root. -/
def upwards (path : String) : List String := (steps path).inits.reverse.map template

@[simp] theorem upwards_root : upwards root = [root] := by
  rw [upwards, steps_root]
  rfl

theorem upwards_down {parent : String} (h : IsTemplate parent) {step : TemplateStep}
    (hstep : step.IsWritable) :
    upwards (down parent step) = down parent step :: upwards parent := by
  have hpath : template (steps parent ++ [step]) = down parent step := by
    rw [template_append_singleton, h.template_steps]
  rw [upwards, steps_down parent hstep, List.inits_append]
  simp [upwards, hpath]

theorem length_steps_le_of_mem_upwards {path above : String} (h : IsTemplate path)
    (habove : above ∈ upwards path) : (steps above).length ≤ (steps path).length := by
  induction h with
  | root =>
    rw [upwards_root, List.mem_singleton] at habove
    rw [habove]
  | @down parent step hparent hstep ih =>
    rw [upwards_down hparent hstep] at habove
    rcases List.mem_cons.mp habove with rfl | habove
    · exact le_refl _
    · have hle := ih habove
      rw [steps_down parent hstep, List.length_append]
      omega

/-- **No path lies above itself.** -/
theorem nodup_upwards {path : String} (h : IsTemplate path) : (upwards path).Nodup := by
  induction h with
  | root => simp
  | @down parent step hparent hstep ih =>
    rw [upwards_down hparent hstep, List.nodup_cons]
    refine ⟨fun habove ↦ ?_, ih⟩
    have hle := length_steps_le_of_mem_upwards hparent habove
    rw [steps_down parent hstep, List.length_append, List.length_singleton] at hle
    omega

end Path

theorem map_path_containersAbove {path : String} (h : IsTemplate path) {fuel : Nat}
    (hfuel : (steps path).length ≤ fuel) (strictness : Strictness) :
    path :: (containersAbove fuel path strictness).map (·.path) = upwards path := by
  induction h generalizing fuel strictness with
  | root =>
    rw [containersAbove_of_isRoot isRoot_root]
    exact upwards_root.symm
  | @down parent step hparent hstep ih =>
    rw [steps_down parent hstep, List.length_append, List.length_singleton] at hfuel
    obtain ⟨rest, rfl⟩ : ∃ rest, fuel = rest + 1 := ⟨fuel - 1, by omega⟩
    rw [containersAbove, containerStep?_down hparent hstep, upwards_down hparent hstep]
    exact congrArg _ (ih (by omega) _)

/-- The paths that a declaration comes to: the elements of a path that is declared a list, then the
path and all paths above it. -/
def walkedPaths (path : String) (type : FieldType) : List String :=
  if type.baseType? = some .list then element path :: upwards path else upwards path

/-- **A walk comes to these paths.** -/
theorem map_path_walk {path : String} (h : IsTemplate path) {type : FieldType}
    {resolved : ResolvedType} (hresolved : type.resolve path = .ok resolved)
    (strictness : Strictness) :
    (walk path resolved strictness).map (·.path) = walkedPaths path type := by
  have hsteps := h.length_steps_le
  have habove := map_path_containersAbove h (Nat.le_succ_of_le hsteps) strictness
  have hlist : type.baseType? = some .list ↔ resolved.type = .list ∧ resolved.implicit = false := by
    rw [FieldType.baseType?_of_resolve hresolved]
    rcases himplicit : resolved.implicit <;> simp
  rw [walk, walkedPaths, List.map_append, List.map_cons, habove]
  by_cases hnamed : resolved.type = .list ∧ resolved.implicit = false
  · rw [if_pos (hlist.mpr hnamed), if_pos (by simp [hnamed])]
    rfl
  · rw [if_neg (fun hbase ↦ hnamed (hlist.mp hbase)), if_neg (by simpa using hnamed)]
    rfl

theorem nodup_walkedPaths {path : String} (h : IsTemplate path) (type : FieldType) :
    (walkedPaths path type).Nodup := by
  have helement := upwards_down h (show Step.IsWritable (.element ()) from trivial)
  rw [walkedPaths]
  split
  · exact helement ▸ nodup_upwards h.element
  · exact nodup_upwards h

/-! ## Kinds of faults -/

/-- The fault is that something else was declared before. -/
def SchemaError.isContradiction : SchemaError → Bool
  | alreadyRequired _ | alreadyOptional _ | alreadyNullable _ | alreadyNonNullable _ => true
  | _ => false

namespace Demand

theorem failsOnly_check (demand : Demand) (field : FieldDefinition) :
    FailsOnly (fun error ↦ error.isContradiction = true ∧
      error.field = stripListMarkers demand.path) (demand.check field) := by
  refine FailsOnly.bind ?_ fun _ ↦ ?_
  · rw [FieldDefinition.checkStrictness.eq_def]
    generalize stripListMarkers demand.path = name
    split
    · exact failsOnly_error ⟨rfl, rfl⟩
    · exact failsOnly_error ⟨rfl, rfl⟩
    · exact failsOnly_ok ()
  · split
    · split
      · exact failsOnly_pure ()
      · rw [FieldDefinition.checkNullability]
        generalize stripListMarkers demand.path = name
        split
        · exact failsOnly_ok ()
        · split
          · exact failsOnly_error ⟨rfl, rfl⟩
          · exact failsOnly_error ⟨rfl, rfl⟩
    · exact failsOnly_pure ()

end Demand

namespace Schema

variable {schema after : Schema} {demands : List Demand} {error : SchemaError} {path : String}
  {presence : Presence} {type : FieldType}

/-- What is wrong with a declaration by itself contradicts nothing, and is wrong with the path that
is declared. -/
theorem failsOnly_fieldWalk (path : String) (presence : Presence) (type : FieldType) :
    FailsOnly (fun error ↦ error.isContradiction = false ∧
      error.field = normalize (trim path)) (fieldWalk path presence type) := by
  rw [fieldWalk]
  split
  · rename_i hoptional
    rw [Bool.and_eq_true] at hoptional
    have hroot : normalize (trim path) = root := by
      rcases (isRoot_iff _).mp hoptional.2 with htrim | htrim <;> rw [htrim] <;> rfl
    exact failsOnly_error ⟨rfl, hroot.symm⟩
  · generalize normalize (trim path) = place
    refine FailsOnly.bind ?_ fun _ ↦ FailsOnly.bind ?_ fun resolved ↦ failsOnly_pure _
    · intro error hsegments
      obtain ⟨reason, rfl⟩ := failsOnly_segments place error hsegments
      exact ⟨rfl, rfl⟩
    · intro error hresolve
      rcases type.failsOnly_resolve place error hresolve with ⟨name, rfl⟩ | ⟨reason, rfl⟩
      · exact ⟨rfl, rfl⟩
      · exact ⟨rfl, rfl⟩

theorem map_path_fieldWalk (h : fieldWalk path presence type = .ok demands) :
    demands.map (·.path) = walkedPaths (normalize (trim path)) type := by
  obtain ⟨-, ⟨parsed, hparsed⟩, resolved, hresolved, rfl⟩ := fieldWalk_eq_ok_iff.mp h
  exact map_path_walk (isTemplate_of_segments hparsed (normalize_ne_empty _)) hresolved _

theorem nodup_fieldWalk (h : fieldWalk path presence type = .ok demands) :
    (demands.map (·.path)).Nodup := by
  obtain ⟨-, ⟨parsed, hparsed⟩, -⟩ := fieldWalk_eq_ok_iff.mp h
  rw [map_path_fieldWalk h]
  exact nodup_walkedPaths (isTemplate_of_segments hparsed (normalize_ne_empty _)) type

/-! ## Where demands stop -/

/-- Demands are met one after the other up to the one that is refused. -/
theorem exists_refused_of_meetAll (h : schema.meetAll demands = (after, .error error)) :
    ∃ before refused above, demands = before ++ refused :: above ∧
      schema.meetAll before = (after, .ok ()) ∧
      refused.check (after.entry refused.path) = .error error := by
  induction demands generalizing schema with
  | nil => cases h
  | cons demand rest ih =>
    rcases hmeet : schema.meet demand with fault | next
    · rw [meetAll_cons_error hmeet] at h
      obtain ⟨rfl, herror⟩ := Prod.mk.inj h
      refine ⟨[], demand, rest, rfl, rfl, ?_⟩
      rw [meet_eq] at hmeet
      split at hmeet
      · cases hmeet
      · rename_i found hcheck
        rw [hcheck, Except.error.inj hmeet, Except.error.inj herror]
    · rw [meetAll_cons_ok hmeet] at h
      obtain ⟨before, refused, above, rfl, hbefore, hcheck⟩ := ih h
      exact ⟨demand :: before, refused, above, rfl, by rw [meetAll_cons_ok hmeet, hbefore], hcheck⟩

theorem field?_meetAll_of_notMem (h : path ∉ demands.map (·.path)) :
    (schema.meetAll demands).1.field? path = schema.field? path := by
  refine meetAll_preserves (motive := fun next ↦ next.field? path = schema.field? path) rfl ?_
  intro next demand hdemand hsame
  have hne : path ≠ demand.path := fun hpath ↦ h (hpath ▸ List.mem_map_of_mem hdemand)
  rw [field?_set, if_neg hne, hsame]

theorem entry_meetAll_of_notMem (h : path ∉ demands.map (·.path)) :
    (schema.meetAll demands).1.entry path = schema.entry path := by
  rw [entry, field?_meetAll_of_notMem h, entry]

/-- Demands that are met on different paths could each have been met first. -/
theorem check_of_meetAll_eq_ok (hok : (schema.meetAll demands).2 = .ok ())
    (hdistinct : (demands.map (·.path)).Nodup) {demand : Demand} (hdemand : demand ∈ demands) :
    demand.check (schema.entry demand.path) = .ok () := by
  induction demands generalizing schema with
  | nil => cases hdemand
  | cons first rest ih =>
    rw [List.map_cons, List.nodup_cons] at hdistinct
    rcases hmeet : schema.meet first with fault | next
    · rw [meetAll_cons_error hmeet] at hok
      cases hok
    · rw [meetAll_cons_ok hmeet] at hok
      rcases List.mem_cons.mp hdemand with rfl | hrest
      · exact check_of_meet_eq_ok hmeet
      · have hne : demand.path ≠ first.path := fun hpath ↦
          hdistinct.1 (hpath ▸ List.mem_map_of_mem hrest)
        have hcheck := ih hok hdistinct.2 hrest
        rwa [eq_set_of_meet_eq_ok hmeet, entry_set, if_neg hne] at hcheck

theorem entry_meetAll_of_mem (hok : (schema.meetAll demands).2 = .ok ())
    (hdistinct : (demands.map (·.path)).Nodup) {demand : Demand} (hdemand : demand ∈ demands) :
    (schema.meetAll demands).1.entry demand.path = demand.update (schema.entry demand.path) := by
  induction demands generalizing schema with
  | nil => cases hdemand
  | cons first rest ih =>
    rw [List.map_cons, List.nodup_cons] at hdistinct
    rcases hmeet : schema.meet first with fault | next
    · rw [meetAll_cons_error hmeet] at hok
      cases hok
    · have hnext := eq_set_of_meet_eq_ok hmeet
      rw [meetAll_cons_ok hmeet] at hok ⊢
      rcases List.mem_cons.mp hdemand with rfl | hrest
      · rw [entry_meetAll_of_notMem hdistinct.1, hnext, entry_set, if_pos rfl]
      · have hne : demand.path ≠ first.path := fun hpath ↦
          hdistinct.1 (hpath ▸ List.mem_map_of_mem hrest)
        rw [ih hok hdistinct.2 hrest, hnext, entry_set, if_neg hne]

/-- What is left of a walk that is stopped at a demand: those before it were met, those above were
not come to. -/
structure StopsAt (schema after : Schema) (before : List Demand) (refused : Demand)
    (above : List Demand) (error : SchemaError) : Prop where
  /-- The fault names the path without its markers. -/
  field : error.field = stripListMarkers refused.path
  /-- What is contradicted was known before the walk. -/
  contradicts : refused.check (schema.entry refused.path) = .error error
  known : refused.path ∈ schema.paths
  /-- Nothing that comes before in the walk contradicted what was known. -/
  first : ∀ demand ∈ before, demand.check (schema.entry demand.path) = .ok ()
  unchanged : after.field? refused.path = schema.field? refused.path
  unchangedAbove : ∀ demand ∈ above, after.field? demand.path = schema.field? demand.path
  unchangedElsewhere : ∀ path, path ∉ (before ++ refused :: above).map (·.path) →
    after.field? path = schema.field? path

/-- **A walk that is stopped changes nothing from there upwards.** -/
theorem exists_stopsAt_of_meetAll (h : schema.meetAll demands = (after, .error error))
    (hdistinct : (demands.map (·.path)).Nodup) : ∃ before refused above,
      demands = before ++ refused :: above ∧ schema.StopsAt after before refused above error := by
  obtain ⟨before, refused, above, rfl, hbefore, hcheck⟩ := exists_refused_of_meetAll h
  obtain rfl : (schema.meetAll before).1 = after := congrArg Prod.fst hbefore
  rw [List.map_append, List.nodup_append] at hdistinct
  obtain ⟨hdistinctbefore, -, hapart⟩ := hdistinct
  have hrest {demand : Demand} (hdemand : demand ∈ refused :: above) :
      demand.path ∉ before.map (·.path) := fun hmem ↦
    hapart _ hmem _ (List.mem_map_of_mem hdemand) rfl
  -- No demand before it was on the path, so the contradiction was there from the beginning.
  rw [entry_meetAll_of_notMem (hrest List.mem_cons_self)] at hcheck
  have hmeet : schema.meet refused = .error error := by rw [meet_eq, hcheck]
  refine ⟨before, refused, above, rfl, ?_⟩
  constructor
  · exact (refused.failsOnly_check _ _ hcheck).2
  · exact hcheck
  · exact mem_paths_of_meet_eq_error hmeet
  · intro demand hdemand
    exact check_of_meetAll_eq_ok (congrArg Prod.snd hbefore) hdistinctbefore hdemand
  · exact field?_meetAll_of_notMem (hrest List.mem_cons_self)
  · intro demand hdemand
    exact field?_meetAll_of_notMem (hrest (List.mem_cons_of_mem _ hdemand))
  · intro path hpath
    rw [List.map_append, List.mem_append, not_or] at hpath
    exact field?_meetAll_of_notMem hpath.1

/-- Demands on different paths stop at the first that the schema before them refuses. -/
theorem meetAll_eq_error_of_refused {before above : List Demand} {refused : Demand}
    (hdistinct : ((before ++ refused :: above).map (·.path)).Nodup)
    (hbefore : ∀ demand ∈ before, demand.check (schema.entry demand.path) = .ok ())
    (hrefused : refused.check (schema.entry refused.path) = .error error) :
    (schema.meetAll (before ++ refused :: above)).2 = .error error := by
  induction before generalizing schema with
  | nil =>
    have hmeet : schema.meet refused = .error error := by rw [meet_eq, hrefused]
    rw [List.nil_append, meetAll_cons_error hmeet]
  | cons first rest ih =>
    rw [List.cons_append, List.map_cons, List.nodup_cons] at hdistinct
    have hmeet : schema.meet first
        = .ok (schema.set first.path (first.update (schema.entry first.path))) := by
      rw [meet_eq, hbefore first List.mem_cons_self]
    have hsame {demand : Demand} (hdemand : demand ∈ rest ++ refused :: above) :
        (schema.set first.path (first.update (schema.entry first.path))).entry demand.path
          = schema.entry demand.path := by
      have hne : demand.path ≠ first.path := fun hpath ↦
        hdistinct.1 (hpath ▸ List.mem_map_of_mem hdemand)
      rw [entry_set, if_neg hne]
    rw [List.cons_append, meetAll_cons_ok hmeet]
    refine ih hdistinct.2 (fun demand hdemand ↦ ?_) ?_
    · rw [hsame (List.mem_append_left _ hdemand)]
      exact hbefore demand (List.mem_cons_of_mem _ hdemand)
    · rw [hsame (List.mem_append_right _ List.mem_cons_self)]
      exact hrefused

/-! ## Declarations that fail -/

/-- **A declaration that fails changes nothing from its first contradiction upwards**, and nothing
at all if it fails for another reason. The contradiction is the first of the walk with the schema
as it was, whatever the walk has added by then. -/
theorem declare_error_frame
    (h : schema.declare (.field path presence type) = (after, .error error)) :
    (error.isContradiction = false → after = schema) ∧
      (error.isContradiction = true → ∃ before refused above,
        fieldWalk path presence type = .ok (before ++ refused :: above) ∧
        (before ++ refused :: above).map (·.path) = walkedPaths (normalize (trim path)) type ∧
        schema.StopsAt after before refused above error) := by
  rw [declare, declareField_eq] at h
  rcases hwalk : fieldWalk path presence type with fault | demands
  · rw [hwalk] at h
    obtain ⟨rfl, herror⟩ := Prod.mk.inj h
    have hown := (failsOnly_fieldWalk path presence type fault hwalk).1
    rw [Except.error.inj herror] at hown
    refine ⟨fun _ ↦ rfl, fun hcontradiction ↦ ?_⟩
    rw [hown] at hcontradiction
    cases hcontradiction
  · rw [hwalk] at h
    obtain ⟨before, refused, above, rfl, hstops⟩ :=
      exists_stopsAt_of_meetAll h (nodup_fieldWalk hwalk)
    have hcontradiction := (refused.failsOnly_check _ _ hstops.contradicts).1
    refine ⟨fun hown ↦ ?_, fun _ ↦ ⟨before, refused, above, rfl,
      map_path_fieldWalk hwalk, hstops⟩⟩
    rw [hcontradiction] at hown
    cases hown

/-- The elements of a required list are declared to be optional lists. The elements of these are
met first and stay; the contradiction is at the elements of the outer list, and neither they nor
the list nor the root have changed. -/
theorem declare_error_frame_elements :
    let schema := (({} : Schema).declare (.field "a" .required (.named "list"))).1
    let failing := Declaration.field " a[]" .optional (.named "list")
    let after := (schema.declare failing).1
    (schema.declare failing).2 = .error (.alreadyRequired "a") ∧ after.knows "a[][]" = true ∧
      ∃ before refused above, schema.StopsAt after before refused above (.alreadyRequired "a") ∧
        (before ++ refused :: above).map (·.path) = ["a[][]", "a[]", "a", "."] := by
  intro schema failing after
  have hfault : schema.declare failing = (after, .error (.alreadyRequired "a")) := rfl
  obtain ⟨before, refused, above, -, hpaths, hstops⟩ := (declare_error_frame hfault).2 rfl
  exact ⟨rfl, rfl, before, refused, above, hstops, hpaths.trans rfl⟩

end Schema

end DocumentSchema
