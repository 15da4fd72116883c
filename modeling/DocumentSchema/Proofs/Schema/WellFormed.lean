import DocumentSchema.Proofs.Schema.Agreement

/-!
# Compiled schemas are well formed

When every declaration succeeds, more holds than between declarations that may fail. A known path
has the rule that what lies below it needs, a list is as strict as its elements, the root is
required, and every declaration got what it asked for.

A walk passes the strictness of elements on to their list, and it asks a named list for elements as
strict as the list. So whoever makes elements strict makes their list just as strict, in the same
walk; and since no strictness is ever changed, what each walk does stays done.
-/

namespace DocumentSchema

open DocumentSchema.Path

namespace Schema

variable {schema result : Schema} {path : String} {presence : Presence} {type : FieldType}
  {declarations : List Declaration}

theorem mem_paths_of_strictness_ne (h : (schema.entry path).strictness ≠ .unknown) :
    path ∈ schema.paths := by
  by_contra hpath
  rw [entry_of_notMem hpath] at h
  exact h rfl

/-! ## Declarations that succeed -/

theorem declare_field_eq_ok_iff : schema.declare (.field path presence type) = (result, .ok ()) ↔
    ∃ demands, fieldWalk path presence type = .ok demands ∧
      schema.meetAll demands = (result, .ok ()) := by
  rw [declare, declareField_eq]
  cases fieldWalk path presence type <;> simp

theorem grows_of_declare {declaration : Declaration}
    (h : schema.declare declaration = (result, .ok ())) : schema.Grows result := by
  have hgrows := schema.grows_declare declaration
  rwa [h] at hgrows

theorem grows_of_declareAll (h : schema.declareAll declarations = .ok result) :
    schema.Grows result :=
  declareAll_induction (fun hgrows hok ↦ hgrows.trans (grows_of_declare hok)) (.refl schema) h

theorem exists_declare_of_mem (h : schema.declareAll declarations = .ok result)
    {declaration : Declaration} (hmem : declaration ∈ declarations) :
    ∃ before after : Schema, before.declare declaration = (after, .ok ()) ∧
      after.Grows result := by
  induction declarations generalizing schema with
  | nil => cases hmem
  | cons first rest ih =>
    rw [declareAll] at h
    split at h
    · rename_i next hnext
      rcases List.mem_cons.mp hmem with rfl | hmem
      · exact ⟨schema, next, hnext, grows_of_declareAll h⟩
      · exact ih h hmem
    · cases h

theorem strictness_of_mem {demands : List Demand}
    (hmeet : schema.meetAll demands = (result, .ok ())) {path : String} {strictness : Strictness}
    {part : Demand.Part} (hdemand : ⟨path, strictness, part⟩ ∈ demands)
    (hne : strictness ≠ .unknown) :
    (result.entry path).strictness = strictness := by
  have hresult : (schema.meetAll demands).1 = result := congrArg Prod.fst hmeet
  rw [← hresult]
  exact (strictness_meetAll_eq_iff (congrArg Prod.snd hmeet) path hne).mpr
    (Or.inr ⟨_, hdemand, rfl, rfl⟩)

theorem strictness_presence_ne (presence : Presence) : presence.strictness ≠ .unknown := by
  cases presence <;> decide

/-- What is declared has the presence that is declared, and so have the elements of what is declared
a list. The root is required from then on. -/
theorem strictness_of_declare (h : schema.declare (.field path presence type) = (result, .ok ())) :
    (result.entry (normalize (trim path))).strictness = presence.strictness ∧
      (type.baseType? = some .list →
        (result.entry (element (normalize (trim path)))).strictness = presence.strictness) ∧
      (result.entry root).strictness = .required := by
  obtain ⟨demands, hwalk, hmeet⟩ := declare_field_eq_ok_iff.mp h
  have hne := strictness_presence_ne presence
  obtain ⟨⟨_, strictness, part⟩, htop, rfl⟩ := (ascent_of_fieldWalk hwalk).exists_root
  obtain rfl : strictness = .required := strictness_of_fieldWalk_root hwalk htop rfl
  obtain ⟨-, -, resolved, hresolved, rfl⟩ := fieldWalk_eq_ok_iff.mp hwalk
  refine ⟨?_, fun hlist ↦ ?_, ?_⟩
  · exact strictness_of_mem hmeet (declared_mem_walk _ resolved _) hne
  · rw [FieldType.baseType?_of_resolve hresolved] at hlist
    split at hlist
    · cases hlist
    · rename_i hnamed
      exact strictness_of_mem hmeet
        (element_mem_walk _ _ (Option.some.inj hlist) (by simpa using hnamed)) hne
  · exact strictness_of_mem hmeet htop (by decide)

/-- What a declaration leads to holds at its time, and stays so to the end. -/
theorem strictness_of_compile (h : compile declarations = .ok schema)
    (hmem : .field path presence type ∈ declarations) :
    (schema.entry (normalize (trim path))).strictness = presence.strictness ∧
      (type.baseType? = some .list →
        (schema.entry (element (normalize (trim path)))).strictness = presence.strictness) ∧
      (schema.entry root).strictness = .required := by
  obtain ⟨before, after, hdeclare, hgrows⟩ := exists_declare_of_mem h hmem
  obtain ⟨hplace, helement, hroot⟩ := strictness_of_declare hdeclare
  have hne := strictness_presence_ne presence
  refine ⟨?_, fun hlist ↦ ?_, ?_⟩
  · rw [(hgrows.entry _).strictness (hplace ▸ hne), hplace]
  · rw [(hgrows.entry _).strictness (helement hlist ▸ hne), helement hlist]
  · rw [(hgrows.entry _).strictness (by rw [hroot]; decide), hroot]

/-! ## Lists and their elements -/

/-- A list is as strict as its elements, where that is known of them. -/
def ListsStrict (schema : Schema) : Prop :=
  ∀ list, IsTemplate list → (schema.entry (element list)).strictness ≠ .unknown →
    (schema.entry list).strictness = (schema.entry (element list)).strictness

theorem ListsStrict.declare (h : schema.ListsStrict) {declaration : Declaration}
    (hok : schema.declare declaration = (result, .ok ())) : result.ListsStrict := by
  cases declaration with
  | ignoreExtraFields =>
    obtain rfl := congrArg Prod.fst hok
    exact h
  | field path presence type =>
    intro list hlist hne
    obtain ⟨demands, hwalk, hmeet⟩ := declare_field_eq_ok_iff.mp hok
    have hgrows := grows_of_declare hok
    have hresult : (schema.meetAll demands).1 = result := congrArg Prod.fst hmeet
    -- Either the elements were as strict before, or a demand of this walk made them so.
    rcases (strictness_meetAll_eq_iff (congrArg Prod.snd hmeet) (element list) hne).mp
      (by rw [hresult]) with hbefore | ⟨demand, hdemand, hpath, hstrictness⟩
    · have hlistbefore := h list hlist (hbefore ▸ hne)
      rw [(hgrows.entry list).strictness (hlistbefore ▸ hbefore ▸ hne), hlistbefore, hbefore]
    · obtain ⟨-, ⟨parsed, hparsed⟩, resolved, -, rfl⟩ := fieldWalk_eq_ok_iff.mp hwalk
      have htemplate := isTemplate_of_segments hparsed (normalize_ne_empty _)
      obtain ⟨above, habove, rfl, hpassed⟩ := exists_above_of_mem_walk htemplate hdemand hlist
        (show Step.IsWritable (.element ()) from trivial) hpath
      have hsame : above.strictness = (result.entry (element above.path)).strictness :=
        hpassed.trans hstrictness
      rw [strictness_of_mem hmeet habove (hsame ▸ hne), hsame]

theorem listsStrict_of_compile (h : compile declarations = .ok schema) : schema.ListsStrict :=
  declareAll_induction (fun hlists hok ↦ hlists.declare hok) (fun _ _ hne ↦ absurd rfl hne) h

/-! ## Well-formed schemas -/

/-- What holds of a schema that declarations made and none of them failed. -/
structure WellFormed (schema : Schema) : Prop where
  rootKnown : root ∈ schema.paths
  rootRequired : (schema.entry root).strictness = .required
  /-- The path above a known path is known, and has one rule for the container that it needs to
  be. -/
  parentRule : ∀ path ∈ schema.paths, path ≠ root →
    ∃ parent ∈ schema.paths, parent? path = some parent ∧
      (schema.entry parent).types.count (if isListTemplate path then .list else .object) = 1
  /-- A list is as strict as its elements, where that is known of them. -/
  listStrict : ∀ list, (schema.entry (element list)).strictness ≠ .unknown →
    (schema.entry list).strictness = (schema.entry (element list)).strictness

theorem container_eq_ite (parent : String) {step : TemplateStep} (hstep : step.IsWritable) :
    step.container.type = if isListTemplate (down parent step) then .list else .object := by
  cases step with
  | member key => rw [down, isListTemplate_child parent hstep]; rfl
  | element _ => rw [down, isListTemplate_element]; rfl

/-- **Compiled schemas are well formed**, and every declaration of a path got what it asked for: the
path has its presence, and if it is declared a list, the elements have it as well. -/
theorem wellFormed_of_compile (h : compile declarations = .ok schema)
    (hfield : ∃ path presence type, .field path presence type ∈ declarations) :
    schema.WellFormed ∧ ∀ path presence type, .field path presence type ∈ declarations →
      normalize (trim path) ∈ schema.paths ∧
      (schema.entry (normalize (trim path))).strictness = presence.strictness ∧
      (type.baseType? = some .list → element (normalize (trim path)) ∈ schema.paths ∧
        (schema.entry (element (normalize (trim path)))).strictness = presence.strictness) := by
  have hreachable := reachable_of_compile h
  have hground := grounded_of_compile h
  obtain ⟨somePath, somePresence, someType, hsome⟩ := hfield
  have hroot := (strictness_of_compile h hsome).2.2
  refine ⟨⟨?_, hroot, ?_, ?_⟩, ?_⟩
  · exact mem_paths_of_strictness_ne (by rw [hroot]; decide)
  · intro path hpath hne
    obtain ⟨parent, hparent, step, hstep, rfl, hrule⟩ := (hground path hpath).2.resolve_left hne
    refine ⟨parent, hparent, parent?_down (hground.isTemplate hparent) hstep, ?_⟩
    rw [← container_eq_ite parent hstep]
    obtain ⟨rule, hmem, htype⟩ := FieldDefinition.hasRuleFor_iff.mp (hrule trivial)
    refine Nat.le_antisymm (hreachable.singleContainers parent step.container) ?_
    exact List.count_pos_iff.mpr (htype ▸ List.mem_map_of_mem hmem)
  · intro list hne
    have hlist := (hground.isTemplate (mem_paths_of_strictness_ne hne)).of_element
    exact listsStrict_of_compile h list hlist hne
  · intro path presence type hmem
    obtain ⟨hplace, helement, -⟩ := strictness_of_compile h hmem
    have hne := strictness_presence_ne presence
    exact ⟨mem_paths_of_strictness_ne (hplace ▸ hne), hplace, fun hlist ↦
      ⟨mem_paths_of_strictness_ne (helement hlist ▸ hne), helement hlist⟩⟩

/-- Optional elements make their list optional, and a list among them brings its own. -/
theorem wellFormed_of_compile_lists :
    let elements := Declaration.field "a[]" .optional .untyped
    let inner := Declaration.field "a[].b" .required (.named "list")
    ∃ schema, compile [elements, .ignoreExtraFields, inner] = .ok schema ∧ schema.WellFormed ∧
      (schema.entry "a").strictness = .optional ∧
      (schema.entry "a[].b[]").strictness = .required := by
  intro elements inner
  have hcompile : ∃ schema, compile [elements, .ignoreExtraFields, inner] = .ok schema := ⟨_, rfl⟩
  obtain ⟨schema, hschema⟩ := hcompile
  obtain ⟨hwell, hdeclared⟩ := wellFormed_of_compile hschema ⟨_, _, _, List.mem_cons_self⟩
  have helements : (schema.entry "a[]").strictness = .optional :=
    (hdeclared "a[]" .optional .untyped List.mem_cons_self).2.1
  refine ⟨schema, hschema, hwell, ?_, ?_⟩
  · have hlist := hwell.listStrict "a"
    rw [show element "a" = "a[]" from rfl, helements] at hlist
    exact hlist (by decide)
  · exact ((hdeclared "a[].b" .required (.named "list") (by simp [inner])).2.2 rfl).2

end Schema

end DocumentSchema
