import DocumentSchema.Proofs.Schema.Confluence
import DocumentSchema.Proofs.Validation.Values
import Mathlib.Data.List.Perm.Basic

/-!
# Findings up to order

Schemas that are alike find the same in every document, up to order, as long as no check fails: what
a definition finds in a value depends on its digest only, and the order of the paths decides
nothing but the order of the findings. Members that are not known are found in the order of the
document, and there the order of the schema does not even show.

If a check can fail there is no such result, since the failure that comes first hides the others.
-/

namespace DocumentSchema

/-- Lists with the same members in each class are the same up to order. -/
theorem perm_of_classes {α κ : Type} [DecidableEq κ] {first second : List α} {key : α → κ}
    (h : ∀ k, (first.filter (key · = k)).Perm (second.filter (key · = k))) :
    first.Perm second := by
  classical
  rw [List.perm_iff_count]
  intro a
  -- A member is counted in its own class.
  have hclass := (List.perm_iff_count.mp (h (key a))) a
  rwa [List.count_filter (by simp), List.count_filter (by simp)] at hclass

/-! ## One value -/

namespace FieldDefinition

variable {field other : FieldDefinition}

theorem Tidy.nullable_eq (h : field.Tidy) : field.nullable = field.nullable?.getD false := by
  rw [nullable?]
  cases hexplicit : field.hasExplicitRule with
  | true => rfl
  | false => exact h hexplicit

/-- The checks that can find something, with their types. -/
def typedChecks (field : FieldDefinition) : List (BaseType × Check) :=
  (field.rules.filter (·.type ≠ .any)).map fun rule ↦ (rule.type, rule.check)

theorem filter_typedChecks (field : FieldDefinition) {type : BaseType} (htype : type ≠ .any) :
    field.typedChecks.filter (·.1 = type) = (field.checksOf type).map (type, ·) := by
  rw [typedChecks, checksOf, List.filter_map, List.filter_filter, List.map_map]
  have hfilter : field.rules.filter (fun rule ↦
      ((fun check : BaseType × Check ↦ decide (check.1 = type)) ∘
        fun rule : Rule ↦ (rule.type, rule.check)) rule && decide (rule.type ≠ .any))
      = field.rules.filter (·.type = type) := by
    refine List.filter_congr fun rule _ ↦ ?_
    by_cases h : rule.type = type
    · simp [h, htype]
    · simp [h]
  rw [hfilter]
  refine List.map_congr_left fun rule hrule ↦ ?_
  have heq : rule.type = type := by simpa using (List.mem_filter.mp hrule).2
  simp [heq]

theorem typedChecks_perm (h : field.digest = other.digest) :
    field.typedChecks.Perm other.typedChecks := by
  refine @perm_of_classes _ _ _ _ _ Prod.fst fun type ↦ ?_
  by_cases htype : type = .any
  · have hnone : ∀ field : FieldDefinition, field.typedChecks.filter (·.1 = type) = [] := by
      intro field
      refine List.filter_eq_nil_iff.mpr fun check hcheck ↦ ?_
      obtain ⟨rule, hrule, rfl⟩ := List.mem_map.mp hcheck
      have hany : rule.type ≠ .any := by simpa using (List.mem_filter.mp hrule).2
      simpa [htype] using hany
    rw [hnone, hnone]
  · have hchecks := congrArg (·.checks type) h
    simp only [digest, if_neg htype] at hchecks
    rw [filter_typedChecks field htype, filter_typedChecks other htype]
    exact (Multiset.coe_eq_coe.mp hchecks).map _

theorem filterMap_found_rules (hcheck : ∀ rule ∈ field.rules, rule.check.type = rule.type)
    (path : String) (value : Json) :
    (field.rules.map fun rule ↦ rule.check.run path value).filterMap found
      = field.typedChecks.filterMap fun check ↦ found (check.2.run path value) := by
  rw [typedChecks, List.filterMap_map, List.filterMap_map, List.filterMap_filter]
  refine List.filterMap_congr fun rule hrule ↦ ?_
  by_cases hany : rule.type = .any
  · have hrun := Check.run_of_any ((hcheck rule hrule).trans hany) path value
    simp [hany, hrun, found]
  · simp [hany]

/-- **What is found in a value depends on the digest only**, up to order. -/
theorem outcomes_perm (h : field.digest = other.digest) (htidy : field.Tidy)
    (hothertidy : other.Tidy) (hcheck : ∀ rule ∈ field.rules, rule.check.type = rule.type)
    (hothercheck : ∀ rule ∈ other.rules, rule.check.type = rule.type) (path : String)
    (value : Json) :
    ((field.outcomes path value).filterMap found).Perm
      ((other.outcomes path value).filterMap found) := by
  have hnullable : field.nullable = other.nullable := by
    have hsources := congrArg (·.nullable) h
    simp only [digest, Option.some.injEq] at hsources
    rw [htidy.nullable_eq, hothertidy.nullable_eq, hsources]
  rw [outcomes, outcomes]
  by_cases hnull : value.isNull = true
  · rw [if_pos hnull, if_pos hnull, hnullable]
  · rw [if_neg hnull, if_neg hnull, filterMap_found_rules hcheck,
      filterMap_found_rules hothercheck]
    exact (typedChecks_perm h).filterMap _

end FieldDefinition

/-! ## All values -/

namespace Schema

variable {schema other : Schema} {members : Members}

/-- What is true of schemas that are made from declarations of files, when no check fails. -/
structure Regular (schema : Schema) : Prop where
  nodup : schema.paths.Nodup
  tidy : schema.Tidy
  checkType : EveryRule (fun rule ↦ rule.check.type = rule.type) schema
  total : EveryRule (fun rule ↦ rule.check.Total) schema

theorem fields_eq (h : schema.paths.Nodup) :
    schema.fields = schema.paths.map fun path ↦ (path, schema.entry path) := by
  rw [paths, Entries.keys, List.map_map]
  refine (List.map_id _).symm.trans (List.map_congr_left ?_)
  rintro ⟨path, field⟩ hfield
  have hentry := ((mem_fields_iff h).mp hfield).2
  simp [hentry]

theorem outcomes_eq (h : schema.paths.Nodup) (index : Index) :
    schema.outcomes index = schema.paths.flatMap fun path ↦
      (index.entries path).flatMap fun entry ↦
        (schema.entry path).outcomes entry.path entry.value := by
  rw [outcomes, fields_eq h, List.flatMap_map]

theorem reportMissing_eq_flatMap (h : schema.paths.Nodup) (index : Index) :
    schema.reportMissing index
      = schema.paths.flatMap fun path ↦ missingAt index path (schema.entry path) := by
  rw [reportMissing, fields_eq h, List.flatMap_map]

/-- The findings about known paths, where no check fails. -/
def knownFindings (schema : Schema) (index : Index) : List Message :=
  (schema.outcomes index).filterMap found ++ schema.reportMissing index

theorem mem_outcomes_cases (h : schema.paths.Nodup) {index : Index}
    {outcome : Except SchemaError (Option Message)} (houtcome : outcome ∈ schema.outcomes index) :
    (∃ path, outcome = .ok (some (Message.new Message.Kind.nullValue path))) ∨
      ∃ path, ∃ rule ∈ (schema.entry path).rules, ∃ place value,
        outcome = rule.check.run place value := by
  rw [outcomes_eq h] at houtcome
  obtain ⟨path, -, houtcome⟩ := List.mem_flatMap.mp houtcome
  obtain ⟨entry, -, houtcome⟩ := List.mem_flatMap.mp houtcome
  rw [FieldDefinition.outcomes] at houtcome
  split at houtcome
  · split at houtcome
    · cases houtcome
    · exact Or.inl ⟨entry.path, List.mem_singleton.mp houtcome⟩
  · obtain ⟨rule, hrule, rfl⟩ := List.mem_map.mp houtcome
    exact Or.inr ⟨path, rule, hrule, entry.path, entry.value, rfl⟩

theorem validate_eq_ok (hnodup : schema.paths.Nodup)
    (htotal : EveryRule (fun rule ↦ rule.check.Total) schema) (members context : Members) :
    schema.validate (.object members) context = .ok
      ((schema.knownFindings (Index.ofDocument schema.knows (.object members)) ++
        schema.reportExtra (Index.ofDocument schema.knows (.object members))).map
          (·.extendContext context)) := by
  have hvalues : schema.checkValues (Index.ofDocument schema.knows (.object members)) = .ok
      ((schema.outcomes (Index.ofDocument schema.knows (.object members))).filterMap found) := by
    rw [checkValues_eq]
    refine verdict_eq_ok fun outcome houtcome ↦ ?_
    rcases mem_outcomes_cases hnodup houtcome with ⟨path, rfl⟩ | ⟨path, rule, hrule, _, _, rfl⟩
    · exact ⟨_, rfl⟩
    · exact htotal path rule hrule _ _
  simp only [validate, hvalues]
  rfl

theorem Regular.validate_eq (h : schema.Regular) (members context : Members) :
    schema.validate (.object members) context = .ok
      ((schema.knownFindings (Index.ofDocument schema.knows (.object members)) ++
        schema.reportExtra (Index.ofDocument schema.knows (.object members))).map
          (·.extendContext context)) :=
  validate_eq_ok h.nodup h.total members context

/-- A finding about a known path says that a value is null or a member missing, or comes from a
rule. -/
theorem kind_of_mem_knownFindings (h : schema.paths.Nodup) {index : Index} {finding : Message}
    (hfinding : finding ∈ schema.knownFindings index) :
    finding.kind = Message.Kind.nullValue ∨ finding.kind = Message.Kind.missingField ∨
      ∃ path, ∃ rule ∈ (schema.entry path).rules, ∃ place value,
        rule.check.run place value = .ok (some finding) := by
  rcases List.mem_append.mp hfinding with hvalue | hmissing
  · obtain ⟨outcome, houtcome, hfound⟩ := List.mem_filterMap.mp hvalue
    rcases mem_outcomes_cases h houtcome with ⟨path, rfl⟩ | ⟨path, rule, hrule, place, value, rfl⟩
    · rw [← Option.some.inj hfound]
      exact Or.inl rfl
    · refine Or.inr (Or.inr ⟨path, rule, hrule, place, value, ?_⟩)
      cases hrun : rule.check.run place value with
      | error error => rw [hrun] at hfound; cases hfound
      | ok found => rw [hrun] at hfound; exact congrArg Except.ok hfound
  · obtain ⟨⟨path, field⟩, -, hmissing⟩ := List.mem_flatMap.mp hmissing
    dsimp only at hmissing
    rw [missingAt] at hmissing
    split at hmissing
    · cases hmissing
    · split at hmissing
      · cases hmissing
      · obtain ⟨entry, -, hmissing⟩ := List.mem_filterMap.mp hmissing
        rw [missingFrom.eq_def] at hmissing
        split at hmissing
        · split at hmissing
          · cases hmissing
          · rw [← Option.some.inj hmissing]
            exact Or.inr (Or.inl rfl)
        · cases hmissing

namespace Alike

theorem knows (h : schema.Alike other) : schema.knows = other.knows := by
  funext path
  rw [Bool.eq_iff_iff, knows_iff, knows_iff, h.paths.mem_iff]

theorem strictness (h : schema.Alike other) (path : String) :
    (schema.entry path).strictness = (other.entry path).strictness := by
  have hpresence := congrArg (·.presence) (h.digest path)
  simp only [FieldDefinition.digest, Option.some.injEq] at hpresence
  exact Strictness.presence?_inj.mp hpresence

theorem outcomes_perm (h : schema.Alike other) (hschema : schema.Regular) (hother : other.Regular)
    (index : Index) :
    ((schema.outcomes index).filterMap found).Perm ((other.outcomes index).filterMap found) := by
  rw [outcomes_eq hschema.nodup, outcomes_eq hother.nodup, List.filterMap_flatMap,
    List.filterMap_flatMap]
  -- The index is the same for both, so a path has the same values under either schema.
  refine h.paths.flatMap fun path _ ↦ ?_
  rw [List.filterMap_flatMap, List.filterMap_flatMap]
  exact List.Perm.flatMap_left _ fun entry _ ↦ FieldDefinition.outcomes_perm (h.digest path)
    (hschema.tidy path) (hother.tidy path) (hschema.checkType path) (hother.checkType path) _ _

theorem reportMissing_perm (h : schema.Alike other) (hschema : schema.Regular)
    (hother : other.Regular) (index : Index) :
    (schema.reportMissing index).Perm (other.reportMissing index) := by
  rw [reportMissing_eq_flatMap hschema.nodup, reportMissing_eq_flatMap hother.nodup]
  refine h.paths.flatMap fun path _ ↦ ?_
  rw [missingAt, missingAt, h.strictness path]

theorem reportExtra_eq (h : schema.Alike other) (index : Index) :
    schema.reportExtra index = other.reportExtra index := by
  rw [reportExtra, reportExtra, h.ignoreExtraFields]

/-- **Schemas that are alike find the same about known paths**, up to order. -/
theorem knownFindings_perm (h : schema.Alike other) (hschema : schema.Regular)
    (hother : other.Regular) (index : Index) :
    (schema.knownFindings index).Perm (other.knownFindings index) :=
  (h.outcomes_perm hschema hother index).append (h.reportMissing_perm hschema hother index)

end Alike

end Schema

end DocumentSchema
