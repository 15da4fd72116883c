import DocumentSchema.Proofs.Schema.Contradiction
import DocumentSchema.Proofs.Schema.WellFormed

/-!
# Declaring known paths again

Only the path of a declaration is read. All other paths that a schema comes to know are cut out of
it, or are the elements of a list that was declared, so that they are paths of the grammar has to be
shown of each step of a walk. It is true of all but one: where the root itself is declared a list,
its elements are known, which cannot be written.

A path that is known can be declared again as it is, and nothing new is known then. Its walk comes
only to known paths, and whatever it asks of them on the way up was asked before. But the path of a
declaration is trimmed: a key may end in white space as long as something follows it, and the path
that ends in this key is known, while a declaration of it is one of another path.
-/

namespace DocumentSchema

open DocumentSchema.Path

/-! ## White space at the ends -/

def beginsBlank (text : String) : Bool := text.toList.head?.any isBlank

def endsBlank (text : String) : Bool := text.toList.getLast?.any isBlank

private theorem dropWhile_eq_self {p : Char → Bool} {text : List Char}
    (h : text.head?.any p = false) : text.dropWhile p = text := by
  rcases text with _ | ⟨c, rest⟩
  · rfl
  · exact List.dropWhile_cons_of_neg (by simpa using h)

theorem trim_eq_self {text : String} (hbegins : beginsBlank text = false)
    (hends : endsBlank text = false) : trim text = text := by
  have hreverse : text.toList.reverse.dropWhile isBlank = text.toList.reverse :=
    dropWhile_eq_self (by rw [List.head?_reverse]; exact hends)
  rw [trim, trimStartChars, dropWhile_eq_self hbegins, trimEndChars, hreverse,
    List.reverse_reverse, String.ofList_toList]

theorem beginsBlank_trim (text : String) : beginsBlank (trim text) = false := by
  have hprefix : trimEndChars (trimStartChars text.toList) <+: trimStartChars text.toList := by
    rw [trimEndChars, ← List.reverse_suffix, List.reverse_reverse]
    exact List.dropWhile_suffix isBlank
  have hstart := List.head?_dropWhile_not isBlank text.toList
  rw [beginsBlank, trim, String.toList_ofList]
  rcases hhead : (trimEndChars (trimStartChars text.toList)).head? with _ | c
  · rfl
  · obtain ⟨rest, hrest⟩ := List.head?_eq_some_iff.mp hhead
    obtain ⟨after, hafter⟩ := hprefix
    rw [hrest, trimStartChars] at hafter
    rw [← hafter] at hstart
    simpa using hstart

/-! ## Paths that walks come to -/

namespace Path

variable {path parent : String}

/-- What holds of a path, and of what lies above wherever it holds, holds all the way up. -/
theorem forall_upwards {motive : String → Prop} (h : IsTemplate path) (hpath : motive path)
    (above : ∀ {parent : String} {step : TemplateStep}, IsTemplate parent → step.IsWritable →
      motive (down parent step) → motive parent) : ∀ other ∈ upwards path, motive other := by
  induction h with
  | root =>
    rw [upwards_root]
    exact List.forall_mem_singleton.mpr hpath
  | down hparent hstep ih =>
    rw [upwards_down hparent hstep]
    exact List.forall_mem_cons.mpr ⟨hpath, ih (above hparent hstep hpath)⟩

theorem exists_toList_down (hroot : isRoot parent = false) (step : TemplateStep) :
    ∃ rest, (down parent step).toList = parent.toList ++ rest := by
  rcases step with key | index
  · exact ⟨_, toList_child hroot key⟩
  · exact ⟨_, toList_element parent⟩

theorem beginsBlank_down (hne : parent ≠ "") (hroot : isRoot parent = false)
    (step : TemplateStep) : beginsBlank (down parent step) = beginsBlank parent := by
  obtain ⟨rest, hdown⟩ := exists_toList_down hroot step
  have hlist : parent.toList ≠ [] := fun hnil ↦ hne (String.toList_eq_nil_iff.mp hnil)
  rw [beginsBlank, hdown, List.head?_append_of_ne_nil _ hlist, beginsBlank]

/-- The path begins with a key, and not with white space. -/
structure BeginsWithKey (path : String) : Prop where
  notBlank : beginsBlank path = false
  notElement : (steps path).head? ≠ some (.element ())

theorem BeginsWithKey.above {step : TemplateStep} (hparent : IsTemplate parent)
    (hstep : step.IsWritable) (h : BeginsWithKey (down parent step)) : BeginsWithKey parent := by
  refine ⟨?_, head?_steps_of_down hstep h.notElement⟩
  by_cases hroot : isRoot parent = true
  · rw [hparent.eq_root_of_isRoot hroot]
    decide
  · rw [Bool.not_eq_true] at hroot
    rw [← beginsBlank_down hparent.ne_empty hroot step]
    exact h.notBlank

/-- A path that is declared is read, and has been trimmed. -/
theorem beginsWithKey_normalize {written : String} {parsed : List Segment}
    (h : segments (normalize (trim written)) = .ok parsed) :
    BeginsWithKey (normalize (trim written)) := by
  refine ⟨?_, head?_steps_of_segments h (Schema.normalize_ne_empty _)⟩
  rw [normalize]
  split
  · decide
  · exact beginsBlank_trim written

theorem beginsWithKey_element (h : IsTemplate path) (hpath : BeginsWithKey path) :
    element path = element root ∨ BeginsWithKey (element path) := by
  by_cases hroot : isRoot path = true
  · rw [h.eq_root_of_isRoot hroot]
    exact Or.inl rfl
  · rw [Bool.not_eq_true] at hroot
    refine Or.inr ⟨(beginsBlank_down h.ne_empty hroot (.element ())).trans hpath.notBlank, ?_⟩
    have hsteps : steps path ≠ [] := by
      intro hnil
      have heq := h.eq_of_steps_eq .root (hnil.trans steps_root.symm)
      rw [heq, isRoot_root] at hroot
      cases hroot
    rw [steps_element, List.head?_append_of_ne_nil _ hsteps]
    exact hpath.notElement

end Path

namespace Schema

variable {schema result : Schema} {path : String} {presence : Presence} {type : FieldType}
  {demands : List Demand} {declarations : List Declaration}

/-- **A walk comes to paths that begin with a key**, apart from the elements of the root. -/
theorem beginsWithKey_of_fieldWalk (h : fieldWalk path presence type = .ok demands)
    {demand : Demand} (hdemand : demand ∈ demands) :
    demand.path = element root ∨ BeginsWithKey demand.path := by
  have hpath := List.mem_map_of_mem (f := (·.path)) hdemand
  rw [map_path_fieldWalk h, walkedPaths] at hpath
  obtain ⟨-, ⟨parsed, hparsed⟩, -⟩ := fieldWalk_eq_ok_iff.mp h
  have htemplate := isTemplate_of_segments hparsed (normalize_ne_empty _)
  have hdeclared := beginsWithKey_normalize hparsed
  have hupwards := forall_upwards htemplate hdeclared BeginsWithKey.above
  split at hpath
  · rcases List.mem_cons.mp hpath with helement | habove
    · rw [helement]
      exact beginsWithKey_element htemplate hdeclared
    · exact Or.inr (hupwards _ habove)
  · exact Or.inr (hupwards _ hpath)

theorem Reachable.beginsWithKey (h : schema.Reachable) :
    ∀ path ∈ schema.paths, path = element root ∨ BeginsWithKey path := by
  refine h.of_demands (motive := fun schema ↦
    ∀ path ∈ schema.paths, path = element root ∨ BeginsWithKey path) ?_ id ?_
  · intro path hpath
    cases hpath
  · intro schema _ _ _ _ hwalk demand hdemand hknown path hpath
    rcases mem_paths_set.mp hpath with rfl | hpath
    · exact beginsWithKey_of_fieldWalk hwalk hdemand
    · exact hknown path hpath

/-! ## Walks over known paths -/

theorem meetAll_eq_ok_of_check (hdistinct : (demands.map (·.path)).Nodup)
    (h : ∀ demand ∈ demands, demand.check (schema.entry demand.path) = .ok ()) :
    (schema.meetAll demands).2 = .ok () := by
  rcases hmeet : schema.meetAll demands with ⟨after, error | _⟩
  · obtain ⟨before, refused, above, rfl, hstops⟩ := exists_stopsAt_of_meetAll hmeet hdistinct
    have hcontradicts := hstops.contradicts
    rw [h refused (by simp)] at hcontradicts
    cases hcontradicts
  · rfl

theorem paths_meetAll_of_known (h : ∀ demand ∈ demands, demand.path ∈ schema.paths) :
    (schema.meetAll demands).1.paths = schema.paths := by
  refine meetAll_preserves (motive := fun next ↦ next.paths = schema.paths) rfl ?_
  intro next demand hdemand hsame
  rw [paths_set, hsame, if_pos (h demand hdemand)]

theorem Grounded.mem_paths_of_mem_upwards {rules : Prop} (h : Grounded rules schema)
    (hpath : path ∈ schema.paths) : ∀ above ∈ upwards path, above ∈ schema.paths :=
  forall_upwards (h.isTemplate hpath) hpath fun hparent hstep hdown ↦
    (h.above hparent hstep hdown).1

/-- The demand asks for no presence, or for the one that its path has. -/
def Repeats (schema : Schema) (demand : Demand) : Prop :=
  demand.strictness = .unknown ∨ (schema.entry demand.path).strictness = demand.strictness

/-- What asks for nothing new, and names no type, contradicts nothing. -/
theorem Repeats.check {demand : Demand} (h : schema.Repeats demand)
    (hunnamed : demand.nullable? = none) :
    demand.check (schema.entry demand.path) = .ok () := by
  rw [Demand.check_eq_ok_iff, hunnamed, agree?_none]
  refine ⟨?_, rfl⟩
  rcases h with hunknown | hsame
  · rw [hunknown]
    exact congrArg Option.isSome (agree?_none _)
  · rw [hsame]
    cases demand.strictness <;> rfl

theorem strictness_root_of_compile (h : compile declarations = .ok schema)
    (hpath : path ∈ schema.paths) : (schema.entry root).strictness = .required := by
  refine declareAll_induction (motive := fun schema ↦
    ∀ path ∈ schema.paths, (schema.entry root).strictness = .required) ?_ ?_ h path hpath
  · intro schema result declaration hroot hdeclare path hpath
    rcases declaration with ⟨written, presence, type⟩ | _
    · exact (strictness_of_declare hdeclare).2.2
    · obtain rfl := congrArg Prod.fst hdeclare
      exact hroot path hpath
  · intro path hpath
    cases hpath

/-- A walk that starts from what is known asks on its way up for what is known. A list is as strict
as its elements, and of other containers nothing is asked but of the root. -/
theorem repeats_containersAbove (hlists : schema.ListsStrict)
    (hroot : (schema.entry root).strictness = .required) (h : IsTemplate path) {fuel : Nat}
    {strictness : Strictness}
    (hstrictness : strictness = .unknown ∨ (schema.entry path).strictness = strictness) :
    ∀ demand ∈ containersAbove fuel path strictness, schema.Repeats demand := by
  induction h generalizing fuel strictness with
  | root =>
    rw [containersAbove_of_isRoot isRoot_root]
    exact List.forall_mem_nil _
  | @down parent step hparent hstep ih =>
    rcases fuel with _ | fuel
    · exact List.forall_mem_nil _
    · rw [containersAbove, containerStep?_down hparent hstep]
      have hpassed : passOn parent strictness step = .unknown ∨
          (schema.entry parent).strictness = passOn parent strictness step := by
        rcases step with key | index
        · rw [passOn]
          split
          · rename_i htop
            rw [hparent.eq_root_of_isRoot htop]
            exact Or.inr hroot
          · exact Or.inl rfl
        · refine or_iff_not_imp_left.mpr fun hne ↦ ?_
          have helement := hstrictness.resolve_left hne
          exact (hlists parent hparent (helement ▸ hne)).trans helement
      exact List.forall_mem_cons.mpr ⟨hpassed, ih hpassed⟩

/-! ## Known paths are declared again -/

/-- A known path of the grammar can be declared again, if it survives being trimmed. -/
theorem declare_again (h : compile declarations = .ok schema) (hpath : path ∈ schema.paths)
    (hparsed : ∃ parsed, segments path = .ok parsed) (htrim : trim path = path)
    (hstrictness : (schema.entry path).strictness = presence.strictness) :
    ∃ result, schema.declare (.field path presence .untyped) = (result, .ok ()) ∧
      result.paths = schema.paths := by
  have hground := grounded_of_compile h
  have htemplate := hground.isTemplate hpath
  have hplace : Path.normalize (trim path) = path := by
    rw [htrim, Path.normalize, if_neg (by simpa using htemplate.ne_empty)]
  have hpresence : ¬(presence = .optional ∧ isRoot (trim path) = true) := by
    rintro ⟨rfl, htop⟩
    rw [htrim] at htop
    rw [htemplate.eq_root_of_isRoot htop] at hstrictness
    exact (reachable_of_compile h).strictness_root_ne hstrictness
  let resolved : ResolvedType := ⟨.any, false, true, .any⟩
  have hwalk : fieldWalk path presence .untyped = .ok (walk path resolved presence.strictness) := by
    rw [fieldWalk_eq_ok_iff, hplace]
    exact ⟨hpresence, hparsed, resolved, rfl, rfl⟩
  have hrepeats : ∀ demand ∈ walk path resolved presence.strictness,
      demand.check (schema.entry demand.path) = .ok () := by
    refine List.forall_mem_cons.mpr ⟨?_, ?_⟩
    · exact Repeats.check (Or.inr hstrictness) rfl
    · intro demand hdemand
      have habove := repeats_containersAbove (listsStrict_of_compile h)
        (strictness_root_of_compile h hpath) htemplate (Or.inr hstrictness) demand hdemand
      obtain ⟨kind, hpart⟩ := part_of_mem_containersAbove hdemand
      refine habove.check ?_
      rw [Demand.nullable?, Demand.rule?, hpart]
      rfl
  have hknown : ∀ demand ∈ walk path resolved presence.strictness, demand.path ∈ schema.paths := by
    intro demand hdemand
    have hmem := List.mem_map_of_mem (f := (·.path)) hdemand
    rw [map_path_fieldWalk hwalk, hplace] at hmem
    exact hground.mem_paths_of_mem_upwards hpath _ hmem
  refine ⟨(schema.meetAll (walk path resolved presence.strictness)).1, ?_, ?_⟩
  · rw [declare_field_eq_ok_iff]
    exact ⟨_, hwalk, Prod.ext rfl (meetAll_eq_ok_of_check (nodup_fieldWalk hwalk) hrepeats)⟩
  · exact paths_meetAll_of_known hknown

/-- **Known paths are paths of the grammar and can be declared again.** No path of a compiled schema
is empty. Every one but the elements of the root can be read, and declared once more with the
presence that it has, unless it ends in white space; that neither fails nor adds a path. -/
theorem declarable_of_compile (h : compile declarations = .ok schema) :
    ∀ path ∈ schema.paths, path ≠ "" ∧ (path ≠ element root →
      (∃ parsed, segments path = .ok parsed) ∧
      (endsBlank path = false → ∀ presence : Presence,
        (schema.entry path).strictness = presence.strictness →
          ∃ result, schema.declare (.field path presence .untyped) = (result, .ok ()) ∧
            result.paths = schema.paths)) := by
  intro path hpath
  have htemplate := (grounded_of_compile h).isTemplate hpath
  refine ⟨htemplate.ne_empty, fun hne ↦ ?_⟩
  have hkey := ((reachable_of_compile h).beginsWithKey path hpath).resolve_left hne
  have hparsed := htemplate.exists_segments hkey.notElement
  refine ⟨hparsed, fun hends presence hstrictness ↦ ?_⟩
  exact declare_again h hpath hparsed (trim_eq_self hkey.notBlank hends) hstrictness

/-- The list that optional lists are the elements of, which no declaration spoke of. -/
theorem declarable_of_compile_list :
    let elements := Declaration.field "a.b[][]" .optional (.named "list")
    ∃ schema result, compile [elements] = .ok schema ∧ "a.b" ∈ schema.paths ∧
      (∃ parsed, segments "a.b" = .ok parsed) ∧
      schema.declare (.field "a.b" .optional .untyped) = (result, .ok ()) ∧
      result.paths = schema.paths := by
  intro elements
  obtain ⟨schema, hschema⟩ : ∃ schema, compile [elements] = .ok schema := ⟨_, rfl⟩
  have hfacts : "a.b" ∈ schema.paths ∧ (schema.entry "a.b").strictness = .optional := by
    obtain rfl := Except.ok.inj hschema
    decide
  obtain ⟨hpath, hstrictness⟩ := hfacts
  obtain ⟨-, hdeclarable⟩ := declarable_of_compile hschema "a.b" hpath
  obtain ⟨hparsed, hagain⟩ := hdeclarable (by decide)
  obtain ⟨result, hresult, hsame⟩ := hagain (by decide) .optional hstrictness
  exact ⟨schema, result, hschema, hpath, hparsed, hresult, hsame⟩

/-- The elements of a root that is declared a list are known, and cannot be written. And a list may
be known under a key that ends in white space, while a declaration of it is one of the path without,
which is a new one. -/
theorem not_declarable_of_compile :
    (∃ schema, compile [.field "." .required (.named "list")] = .ok schema ∧
      ".[]" ∈ schema.paths ∧ segments ".[]" = .error (.invalidPath ".[]" "empty segment") ∧
      (schema.entry ".[]").strictness = .required ∧
      (schema.declare (.field ".[]" .required .untyped)).2
        = .error (.invalidPath ".[]" "empty segment")) ∧
    ∃ schema, compile [.field "a []" .required .untyped] = .ok schema ∧
      "a " ∈ schema.paths ∧ (schema.entry "a ").strictness = .required ∧
      (schema.declare (.field "a " .required .untyped)).1.paths = schema.paths ++ ["a"] := by
  constructor
  · exact ⟨_, rfl, by decide, by decide, by decide, by decide⟩
  · exact ⟨_, rfl, by decide, by decide, by decide⟩

end Schema

end DocumentSchema
