import DocumentSchema.Proofs.Index.Entries
import DocumentSchema.Proofs.Outcomes
import DocumentSchema.Proofs.Schema.Reachable
import DocumentSchema.Validation

/-!
# Findings about values

The pass over the values nests three loops, over the paths of the schema, the values that the index
lists for a path, and the rules for a value, and any rule may fail. `Schema.outcomes` is the flat
list of everything the loops come to, and the pass is its verdict.

`Schema.valueFindings` is the same verdict without any index: each path is resolved against the
document by itself, from the root and step by step. For documents whose keys can be written in
paths the two agree, in every finding, in their order, and in the failure if there is one. What
makes them agree is that the paths a schema knows are closed upwards, so that the walk that builds
the index is never stopped above a known path.
-/

namespace DocumentSchema

open DocumentSchema.Path

/-- What checking a value comes to, in the order of the rules. Rules do not see null. -/
def FieldDefinition.outcomes (field : FieldDefinition) (path : String) (value : Json) :
    List (Except SchemaError (Option Message)) :=
  if value.isNull then
    if field.nullable then [] else [.ok (some (Message.new Message.Kind.nullValue path))]
  else field.rules.map fun rule ↦ rule.check.run path value

namespace Schema

/-! ## The pass as one verdict -/

theorem checkEntry_eq (field : FieldDefinition) (entry : IndexEntry) :
    checkEntry field entry = verdict (field.outcomes entry.path entry.value) := by
  rw [checkEntry, FieldDefinition.outcomes]
  split
  · split <;> rfl
  · exact mapM_eq_verdict _ _

def outcomes (schema : Schema) (index : Index) : List (Except SchemaError (Option Message)) :=
  schema.fields.flatMap fun (path, field) ↦
    (index.entries path).flatMap fun entry ↦ field.outcomes entry.path entry.value

theorem checkField_eq (index : Index) (path : String) (field : FieldDefinition) :
    checkField index path field = verdict ((index.entries path).flatMap fun entry ↦
      field.outcomes entry.path entry.value) := by
  rw [checkField, ← mapM_verdict_eq_verdict, funext (checkEntry_eq field)]

theorem checkValues_eq (schema : Schema) (index : Index) :
    schema.checkValues index = verdict (schema.outcomes index) := by
  rw [checkValues, outcomes, ← mapM_verdict_eq_verdict]
  simp only [checkField_eq]

/-! ## The pass without an index -/

/-- The findings about the values of a document, or the first failure, when each path is resolved
by itself. -/
def valueFindings (schema : Schema) (document : Json) : Except SchemaError (List Message) :=
  verdict <| schema.fields.flatMap fun (path, field) ↦
    (document.select (steps path)).flatMap fun location ↦
      field.outcomes location.path location.value

theorem Grounded.closed {rules : Prop} {schema : Schema} (h : Grounded rules schema) :
    Index.Closed schema.knows := by
  intro parent step hparent hstep hknown
  exact knows_iff.mpr (h.above hparent hstep (knows_iff.mp hknown)).1

theorem entries_ofDocument {rules : Prop} {schema : Schema} (h : Grounded rules schema)
    {path : String} (hpath : path ∈ schema.paths) {members : Members}
    (hdocument : (Json.object members).Addressable) :
    (Index.ofDocument schema.knows (.object members)).entries path
      = ((Json.object members).select (steps path)).map Location.entry :=
  Index.entries_ofDocument h.closed (h.isTemplate hpath) (knows_iff.mpr hpath) hdocument

theorem mem_paths_of_mem_fields {schema : Schema} {path : String} {field : FieldDefinition}
    (h : (path, field) ∈ schema.fields) : path ∈ schema.paths := List.mem_map_of_mem h

/-- **The findings about values are those of the paths resolved one by one**, in the same order and
with the same failure. -/
theorem checkValues_eq_valueFindings {schema : Schema} (h : schema.Reachable) {members : Members}
    (hdocument : (Json.object members).Addressable) :
    schema.checkValues (Index.ofDocument schema.knows (.object members))
      = schema.valueFindings (.object members) := by
  rw [checkValues_eq, outcomes, valueFindings]
  -- Both are verdicts, so it is enough that the outcomes are the same path by path.
  congr 1
  refine List.flatMap_congr ?_
  rintro ⟨path, field⟩ hfield
  simp only [entries_ofDocument h.grounded (mem_paths_of_mem_fields hfield) hdocument,
    List.flatMap_map]
  rfl

/-- A list with an element of the wrong shape, and a null below the others. -/
theorem checkValues_eq_valueFindings_nested :
    let schema := (({} : Schema).declare (.field "a[].b" .required (.named "integer"))).1
    let document := Json.object
      [("a", .array [.object [("b", .null)], .bool true, .object [("b", .string "x")]])]
    schema.checkValues (Index.ofDocument schema.knows document) = schema.valueFindings document :=
  checkValues_eq_valueFindings (.declare _ .empty)
    ⟨by simp [Json.KeysDistinct, Json.KeysDistinctMembers, Json.KeysDistinctItems],
      by decide⟩

end Schema

end DocumentSchema
