import DocumentSchema.Proofs.Validation.Values

/-!
# Findings about missing members

A member is missing where the object around it is there and does not hold it. `Json.absences` says
so of one path and without any index: it selects the locations that the path above leads to, and
keeps the objects without the key. The pass over missing members reports exactly the absences of
the paths that are required, each under the concrete path that the member would have.

That the pass looks in the right place rests on the index, which lists the path above a known path;
that it reports no absence twice rests on concrete paths, which tell locations apart.
-/

namespace DocumentSchema

open DocumentSchema.Path

namespace Json

def lacks (key : String) : Json → Bool
  | .object members => !Entries.contains members key
  | _ => false

theorem lacks_iff {key : String} {value : Json} :
    value.lacks key = true ↔ ∃ members, value = .object members ∧ key ∉ Entries.keys members := by
  cases value with
  | object members => simp [lacks, ← Entries.contains_iff]
  | null | bool _ | number _ | string _ | array _ => simp [lacks]

/-- The steps to the places where a member is absent from an object that is there. The root and the
elements of lists are no members. -/
def absences (document : Json) (path : String) : List (List LocationStep) :=
  match (steps path).getLast? with
  | some (.member key) =>
    ((document.select (steps path).dropLast).filter (·.value.lacks key)).map
      (·.steps ++ [.member key])
  | _ => []

variable {document : Json}

@[simp] theorem absences_root : document.absences root = [] := rfl

@[simp] theorem absences_element (path : String) : document.absences (element path) = [] := by
  rw [absences, steps_element, List.getLast?_concat]

theorem absences_child (parent : String) {key : String} (hkey : IsIdentifier key) :
    document.absences (child parent key)
      = ((document.select (steps parent)).filter (·.value.lacks key)).map
          (·.steps ++ [.member key]) := by
  rw [absences, steps_child parent hkey, List.getLast?_concat, List.dropLast_concat]

theorem mem_absences {path : String} {route : List LocationStep}
    (h : route ∈ document.absences path) :
    ∃ location key, route = location.steps ++ [.member key] ∧
      steps path = location.steps.map Step.general ++ [.member key] ∧
      location ∈ document.select (location.steps.map Step.general) ∧
      location.value.lacks key = true := by
  rw [absences] at h
  split at h
  · rename_i key hlast
    obtain ⟨above, hsteps⟩ := List.getLast?_eq_some_iff.mp hlast
    rw [hsteps, List.dropLast_concat] at h
    obtain ⟨location, hlocation, rfl⟩ := List.mem_map.mp h
    obtain ⟨hselect, hlacks⟩ := List.mem_filter.mp hlocation
    have hgeneral := Location.general_steps_of_mem_select hselect
    exact ⟨location, key, rfl, by rw [hgeneral, hsteps], by rwa [hgeneral], hlacks⟩
  · cases h

theorem general_of_mem_absences {path : String} {route : List LocationStep}
    (h : route ∈ document.absences path) : route.map Step.general = steps path := by
  obtain ⟨location, key, rfl, hsteps, -, -⟩ := mem_absences h
  rw [List.map_append, hsteps]
  rfl

theorem isWritable_of_mem_absences {path : String} (hpath : IsTemplate path)
    {route : List LocationStep} (h : route ∈ document.absences path) :
    ∀ step ∈ route, step.IsWritable := by
  intro step hstep
  exact Step.isWritable_general.mp (hpath.isWritable_of_mem_steps step.general
    (general_of_mem_absences h ▸ List.mem_map_of_mem hstep))

theorem nodup_absences (path : String) : (document.absences path).Nodup := by
  rw [absences]
  split
  · rename_i key _
    -- One key is put after routes that are distinct already.
    have hlacking := (document.nodup_select (steps path).dropLast).sublist
      ((@List.filter_sublist _ (·.value.lacks key) _).map Location.steps)
    have hroutes := hlacking.map fun first second
      (heq : first ++ [Step.member key] = second ++ [Step.member key]) ↦
        List.append_cancel_right heq
    rwa [List.map_map] at hroutes
  · exact List.nodup_nil

end Json

namespace Schema

variable {schema : Schema} {members : Members}

def missing (route : List LocationStep) : Message :=
  Message.new Message.Kind.missingField (concrete route)

/-- The absences of required paths, in the order of the schema. -/
def absences (schema : Schema) (document : Json) : List (List LocationStep) :=
  schema.fields.flatMap fun (path, field) ↦
    if field.strictness = .required then document.absences path else []

/-! ## What the pass looks up -/

theorem missingFrom_entry (location : Location) (key : String) :
    missingFrom key location.entry = if location.value.lacks key = true then
      some (missing (location.steps ++ [.member key])) else none := by
  obtain ⟨route, value⟩ := location
  rw [missing, concrete_append_singleton]
  cases value with
  | object members =>
    have hlacks : Json.lacks key (.object members) = !Entries.contains members key := rfl
    rw [hlacks, missingFrom]
    simp only [Location.entry]
    cases Entries.contains members key <;> rfl
  | null | bool _ | number _ | string _ | array _ => rfl

/-- What is missing from the values that the index lists for a path. -/
theorem filterMap_missingFrom (locations : List Location) (key : String) :
    (locations.map Location.entry).filterMap (missingFrom key)
      = ((locations.filter (·.value.lacks key)).map (·.steps ++ [.member key])).map missing := by
  induction locations with
  | nil => rfl
  | cons location rest ih =>
    rw [List.map_cons, List.filterMap_cons, missingFrom_entry, ih]
    by_cases hlacks : location.value.lacks key = true
    · simp only [List.filter_cons, hlacks, if_true, List.map_cons]
    · simp only [List.filter_cons, hlacks, if_false, Bool.false_eq_true]

theorem missingAt_eq {rules : Prop} (h : Grounded rules schema) {path : String}
    (hpath : path ∈ schema.paths) (field : FieldDefinition)
    (hdocument : (Json.object members).Addressable) :
    missingAt (Index.ofDocument schema.knows (.object members)) path field
      = if field.strictness = .required then
          ((Json.object members).absences path).map missing
        else [] := by
  rw [missingAt]
  by_cases hrequired : field.strictness = .required
  · rw [if_pos hrequired]
    cases h.isTemplate hpath with
    | root => simp [isListTemplate, hrequired]
    | @down parent step hparent hstep =>
      cases step with
      | element _ => simp [down]
      | member key =>
        have habove := (h.above hparent hstep hpath).1
        rw [if_neg (by simp [down, isListTemplate_child parent hstep, hrequired])]
        simp only [down, splitLast?_child hparent hstep]
        rw [entries_ofDocument h habove hdocument, filterMap_missingFrom,
          Json.absences_child parent hstep]
  · rw [if_neg hrequired, if_pos (by simp [hrequired])]

theorem reportMissing_eq {rules : Prop} (h : Grounded rules schema)
    (hdocument : (Json.object members).Addressable) :
    schema.reportMissing (Index.ofDocument schema.knows (.object members))
      = (schema.absences (.object members)).map missing := by
  rw [reportMissing, absences, List.map_flatMap]
  refine List.flatMap_congr ?_
  rintro ⟨path, field⟩ hfield
  refine (missingAt_eq h (mem_paths_of_mem_fields hfield) field hdocument).trans ?_
  dsimp only
  split <;> rfl

/-! ## What is reported -/

theorem mem_absences (h : schema.Reachable) {document : Json} {route : List LocationStep}
    (hroute : route ∈ schema.absences document) :
    ∃ path ∈ schema.paths, (schema.entry path).strictness = .required ∧
      route ∈ document.absences path := by
  obtain ⟨⟨path, field⟩, hfield, hroute⟩ := List.mem_flatMap.mp hroute
  obtain ⟨hpath, hentry⟩ := (mem_fields_iff h.nodup_paths).mp hfield
  refine ⟨path, hpath, ?_⟩
  rw [hentry]
  dsimp only at hroute
  split at hroute
  · rename_i hrequired
    exact ⟨hrequired, hroute⟩
  · cases hroute

theorem nodup_absences (h : schema.Reachable) (document : Json) :
    (schema.absences document).Nodup := by
  refine nodup_flatMap_of_source (fun route ↦ template (route.map Step.general)) h.nodup_paths
    ?_ ?_
  · rintro ⟨path, field⟩ -
    dsimp only
    split
    · exact Json.nodup_absences path
    · exact List.nodup_nil
  · rintro ⟨path, field⟩ hfield route hroute
    have hpath := h.grounded.isTemplate (mem_paths_of_mem_fields hfield)
    dsimp only at hroute
    split at hroute
    · rw [Json.general_of_mem_absences hroute, hpath.template_steps]
    · cases hroute

/-- **Exactly the absences of required paths are reported missing**, each once. A finding about a
concrete path is about a template that is required, and the object around it is there and does not
hold the last key. -/
theorem reportMissing_exact (h : schema.Reachable) (hdocument : (Json.object members).Addressable) :
    let document := Json.object members
    let findings := schema.reportMissing (Index.ofDocument schema.knows document)
    findings = (schema.absences document).map missing ∧
      (findings.map (·.field)).Nodup ∧
      ∀ finding ∈ findings, ∀ route : List LocationStep, (∀ step ∈ route, step.IsWritable) →
        finding.field = concrete route →
        (schema.entry (template (route.map Step.general))).strictness = .required ∧
          ∃ above key around, route = above ++ [.member key] ∧
            ⟨above, .object around⟩ ∈ document.select (above.map Step.general) ∧
            key ∉ Entries.keys around := by
  intro document findings
  have hfindings : findings = (schema.absences document).map missing :=
    reportMissing_eq h.grounded hdocument
  have hwritable : ∀ route ∈ schema.absences document, ∀ step ∈ route, step.IsWritable := by
    intro route hroute
    obtain ⟨path, hpath, -, habsent⟩ := mem_absences h hroute
    exact Json.isWritable_of_mem_absences (h.grounded.isTemplate hpath) habsent
  refine ⟨hfindings, ?_, ?_⟩
  -- In both parts a concrete path is read back, and so tells its route.
  · rw [hfindings, List.map_map]
    refine (nodup_absences h document).map_on fun first hfirst second hsecond heq ↦ ?_
    rw [← locationSteps_concrete (hwritable first hfirst),
      ← locationSteps_concrete (hwritable second hsecond)]
    exact congrArg locationSteps heq
  · intro finding hfinding route hroute hfield
    rw [hfindings] at hfinding
    obtain ⟨absent, habsent, rfl⟩ := List.mem_map.mp hfinding
    have heq : absent = route := by
      rw [← locationSteps_concrete (hwritable absent habsent), ← locationSteps_concrete hroute]
      exact congrArg locationSteps hfield
    subst heq
    obtain ⟨path, hpath, hrequired, habsent⟩ := mem_absences h habsent
    rw [Json.general_of_mem_absences habsent, (h.grounded.isTemplate hpath).template_steps]
    obtain ⟨location, key, hsteps, -, hselect, hlacks⟩ := Json.mem_absences habsent
    obtain ⟨around, hvalue, hkey⟩ := Json.lacks_iff.mp hlacks
    refine ⟨hrequired, location.steps, key, around, hsteps, ?_, hkey⟩
    rwa [← hvalue]

/-- Of three elements only the one that is an object without the key is reported. -/
theorem reportMissing_exact_list :
    let schema := (({} : Schema).declare (.field "a[].b" .required .untyped)).1
    let document := Json.object [("a", .array [.bool true, .object [], .object [("b", .null)]])]
    schema.reportMissing (Index.ofDocument schema.knows document)
      = [missing [.member "a", .element 1, .member "b"]] := by
  intro schema document
  have habsences : schema.absences document = [[.member "a", .element 1, .member "b"]] := by
    decide +kernel
  have hdocument : document.Addressable :=
    ⟨by simp [document, Json.KeysDistinct, Json.KeysDistinctMembers, Json.KeysDistinctItems],
      by decide⟩
  have hfindings := (reportMissing_exact (.declare _ .empty : schema.Reachable) hdocument).1
  rw [hfindings, habsences]
  rfl

end Schema

end DocumentSchema
