import DocumentSchema.Proofs.Schema.Rules
import DocumentSchema.Proofs.Validation.Values

/-!
# No silence about a wrong parent

What lies below a value of the wrong shape is neither entered nor reported missing: one finding
about the value stands for all of it. That finding must then be there. In a schema whose
declarations all succeeded it is: a known path has the rule for the kind of container that the
paths directly below it need, the rule checks what it says, and the check refuses every other
shape. Nothing is assumed about the document, not even that its keys can be written in paths.
-/

namespace DocumentSchema

open DocumentSchema.Path

/-- The value is a container of a kind. -/
def ContainerKind.Holds (kind : ContainerKind) (value : Json) : Prop :=
  match kind with
  | object => ∃ members, value = .object members
  | list => ∃ items, value = .array items

theorem Check.run_of_not_holds {check : Check} {kind : ContainerKind}
    (h : check.type = kind.type) (path : String) {value : Json} (hvalue : ¬kind.Holds value) :
    check.run path value = .ok (some (.invalidType path kind.type.name)) := by
  cases kind with
  | object =>
    cases check with
    | object =>
      cases value with
      | object members => exact absurd ⟨members, rfl⟩ hvalue
      | null | bool _ | number _ | string _ | array _ => rfl
    | any | boolean | list _ | number _ | integer _ | text _ | custom _ _ => cases h
  | list =>
    cases check with
    | list limits =>
      cases value with
      | array items => exact absurd ⟨items, rfl⟩ hvalue
      | null | bool _ | number _ | string _ | object _ => rfl
    | any | boolean | object | number _ | integer _ | text _ | custom _ _ => cases h

/-- Some finding has a kind, is about a concrete path, and says what was expected there. -/
def Reported (findings : List Message) (kind path : String) (expected : Option Json) : Prop :=
  ∃ finding ∈ findings, finding.kind = kind ∧ finding.field = path ∧ finding.expected = expected

namespace Schema

variable {schema : Schema} {document : Json} {context : Members} {messages : List Message}
  {path : String} {entry : IndexEntry}

/-! ## From outcomes to messages -/

theorem extendContext_mem (hvalidate : schema.validate document context = .ok messages)
    {finding : Message}
    (hfinding : .ok (some finding) ∈ schema.outcomes (Index.ofDocument schema.knows document)) :
    finding.extendContext context ∈ messages := by
  rw [validate.eq_def] at hvalidate
  split at hvalidate
  · simp only [checkValues_eq] at hvalidate
    split at hvalidate
    · cases hvalidate
    · rename_i findings hfindings
      obtain rfl := Except.ok.inj hvalidate
      refine List.mem_map_of_mem (List.mem_append_left _ (List.mem_append_left _ ?_))
      exact mem_of_verdict_eq_ok hfindings hfinding
  · cases hvalidate

theorem reported_of_mem_outcomes (hvalidate : schema.validate document context = .ok messages)
    {finding : Message}
    (hfinding : .ok (some finding) ∈ schema.outcomes (Index.ofDocument schema.knows document)) :
    Reported messages finding.kind finding.field finding.expected :=
  ⟨_, extendContext_mem hvalidate hfinding, finding.kind_extendContext context,
    finding.field_extendContext context, finding.expected_extendContext context⟩

theorem mem_outcomes {index : Index} {field : FieldDefinition}
    (hfield : (path, field) ∈ schema.fields) (hentry : entry ∈ index.entries path)
    {outcome : Except SchemaError (Option Message)}
    (houtcome : outcome ∈ field.outcomes entry.path entry.value) :
    outcome ∈ schema.outcomes index :=
  List.mem_flatMap.mpr ⟨(path, field), hfield, List.mem_flatMap.mpr ⟨entry, hentry, houtcome⟩⟩

/-! ## One value -/

section Value

variable {declarations : List Declaration} (hcompile : compile declarations = .ok schema)
  (hvalidate : schema.validate document context = .ok messages) (hpath : path ∈ schema.paths)
  (hentry : entry ∈ (Index.ofDocument schema.knows document).entries path)

include hcompile hvalidate hpath hentry

/-- A value that a known path goes down from is the container that the step needs, or null, or
reported. -/
theorem holds_or_reported {step : TemplateStep} (hstep : step.IsWritable)
    (hdown : down path step ∈ schema.paths) :
    step.container.Holds entry.value ∨ entry.value = .null ∨
      Reported messages Message.Kind.invalidType entry.path
        (some (.string step.container.type.name)) := by
  have hground := grounded_of_compile hcompile
  have hreachable := reachable_of_compile hcompile
  by_cases hholds : step.container.Holds entry.value
  · exact Or.inl hholds
  · by_cases hnull : entry.value = .null
    · exact Or.inr (Or.inl hnull)
    · -- The path below needs a rule here, and the rule checks for the container that it is for.
      have hrule := (hground.above (hground.isTemplate hpath) hstep hdown).2 trivial
      obtain ⟨rule, hrule, htype⟩ := FieldDefinition.hasRuleFor_iff.mp hrule
      have hcheck : rule.check.type = step.container.type :=
        (hreachable.check_type path rule hrule).trans htype
      have hfield := (mem_fields_iff hreachable.nodup_paths).mpr ⟨hpath, rfl⟩
      have houtcome : .ok (some (.invalidType entry.path step.container.type.name))
          ∈ (schema.entry path).outcomes entry.path entry.value := by
        rw [FieldDefinition.outcomes, if_neg (mt Json.isNull_iff.mp hnull)]
        exact List.mem_map.mpr ⟨rule, hrule, Check.run_of_not_holds hcheck entry.path hholds⟩
      exact Or.inr (Or.inr
        (reported_of_mem_outcomes hvalidate (mem_outcomes hfield hentry houtcome)))

theorem null_reported (hnull : entry.value = .null)
    (hnullable : (schema.entry path).nullable = false) :
    Reported messages Message.Kind.nullValue entry.path none := by
  have hfield := (mem_fields_iff (reachable_of_compile hcompile).nodup_paths).mpr ⟨hpath, rfl⟩
  have houtcome : .ok (some (Message.new Message.Kind.nullValue entry.path))
      ∈ (schema.entry path).outcomes entry.path entry.value := by
    rw [FieldDefinition.outcomes, hnull, hnullable]
    exact List.mem_singleton.mpr rfl
  exact reported_of_mem_outcomes hvalidate (mem_outcomes hfield hentry houtcome)

end Value

/-! ## Every known path -/

/-- The member that a known path names last is a step down from the path above it. -/
theorem down_of_splitLast? {child key : String} (h : IsTemplate child)
    (hlist : isListTemplate child = false) (hsplit : splitLast? child = some (path, key)) :
    IsIdentifier key ∧ child = Path.child path key := by
  cases h with
  | root => cases hsplit
  | @down parent step hparent hstep =>
    cases step with
    | element _ =>
      rw [down, isListTemplate_element] at hlist
      cases hlist
    | member last =>
      rw [down, splitLast?_child hparent hstep] at hsplit
      obtain ⟨rfl, rfl⟩ := Prod.mk.inj (Option.some.inj hsplit)
      exact ⟨hstep, rfl⟩

/-- **Nothing below a wrong parent is passed over in silence.** In a compiled schema, a value at a
known path is the object or the list that the known paths directly below it need, or it is null, or
its shape is reported; and if it is null where null is not allowed, that is reported. -/
theorem wrongParent_reported {declarations : List Declaration}
    (hcompile : compile declarations = .ok schema)
    (hvalidate : schema.validate document context = .ok messages) (hpath : path ∈ schema.paths)
    (hentry : entry ∈ (Index.ofDocument schema.knows document).entries path) :
    ((∃ child ∈ schema.paths, isListTemplate child = false ∧
        ∃ key, splitLast? child = some (path, key)) →
      (∃ members, entry.value = .object members) ∨ entry.value = .null ∨
        Reported messages Message.Kind.invalidType entry.path (some (.string "object"))) ∧
    (element path ∈ schema.paths →
      (∃ items, entry.value = .array items) ∨ entry.value = .null ∨
        Reported messages Message.Kind.invalidType entry.path (some (.string "list"))) ∧
    (entry.value = .null → (schema.entry path).nullable = false →
      Reported messages Message.Kind.nullValue entry.path none) := by
  refine ⟨?_, ?_, null_reported hcompile hvalidate hpath hentry⟩
  · rintro ⟨child, hchild, hlist, key, hsplit⟩
    obtain ⟨hkey, rfl⟩ :=
      down_of_splitLast? ((grounded_of_compile hcompile).isTemplate hchild) hlist hsplit
    exact holds_or_reported hcompile hvalidate hpath hentry
      (show Step.IsWritable (.member key) from hkey) hchild
  · intro helement
    exact holds_or_reported hcompile hvalidate hpath hentry
      (show Step.IsWritable (.element ()) from trivial) helement

/-- A truth value stands where an object with a required member is needed. -/
theorem wrongParent_reported_scalar :
    ∃ schema messages, compile [.field "a.b" .required .untyped] = .ok schema ∧
      schema.validate (.object [("a", .bool true)]) [] = .ok messages ∧
      Reported messages Message.Kind.invalidType "a" (some (.string "object")) := by
  let schema : Schema := { fields :=
    [("a.b", ⟨.required, false, [⟨.any, false, true, .any⟩]⟩),
      ("a", ⟨.unknown, false, [⟨.object, false, true, .object⟩]⟩),
      (root, ⟨.required, false, [⟨.object, false, true, .object⟩]⟩)] }
  have hcompile : compile [.field "a.b" .required .untyped] = .ok schema := rfl
  have hvalidate : schema.validate (.object [("a", .bool true)]) []
      = .ok [.invalidType "a" "object"] := rfl
  have hentries : (Index.ofDocument schema.knows (.object [("a", .bool true)])).entries "a"
      = [⟨"a", .bool true, some .object⟩] := rfl
  have hpath : "a" ∈ schema.paths := by decide
  have hwrong := (wrongParent_reported hcompile hvalidate hpath
    (hentries ▸ List.mem_singleton.mpr rfl)).1 ⟨"a.b", by decide, by decide, "b", by decide⟩
  refine ⟨schema, _, hcompile, hvalidate, ?_⟩
  rcases hwrong with ⟨members, hmembers⟩ | hnull | hreported
  · cases hmembers
  · cases hnull
  · exact hreported

end Schema

end DocumentSchema
