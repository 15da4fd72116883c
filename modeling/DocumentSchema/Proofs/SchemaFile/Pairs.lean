import DocumentSchema.Proofs.Schema.Agreement
import DocumentSchema.Proofs.SchemaFile.Demands

/-!
# Contradictions in a schema file

What is wrong with a schema file is wrong with one of its entries or with two of them: the demands
of a file can be met if every two of them can, and any two belong to one entry or to two. So the
order of the entries does not decide whether the file compiles, and of the schema it decides only
the order of the rules and which of several limits on a list is left.
-/

namespace DocumentSchema

namespace SchemaFile

variable {file : SchemaFile} {checks : CustomChecks} {schema : Schema}

/-! ## Whether a file compiles -/

/-- Nothing is wrong with an entry by itself. -/
def Entry.Sound (checks : CustomChecks) (entry : Entry) : Prop :=
  (∃ demands, entry.walk checks = .ok demands) ∧
    (entry.demands checks).Pairwise Demand.Meets

/-- Two entries do not contradict each other. -/
def Entry.Meets (checks : CustomChecks) (first second : Entry) : Prop :=
  ∀ demand ∈ first.demands checks, ∀ other ∈ second.demands checks, demand.Meets other

theorem Entry.Meets.symm {first second : Entry} (h : first.Meets checks second) :
    second.Meets checks first :=
  fun demand hdemand other hother ↦ (h other hother demand hdemand).symm

theorem exists_compile_iff : (∃ schema, file.compile checks = .ok schema) ↔
    (∀ entry ∈ file.fields, entry.Sound checks) ∧ file.fields.Pairwise (Entry.Meets checks) := by
  let start : Schema := { ignoreExtraFields := file.ignoreExtraFields }
  let demands := file.fields.flatMap (Entry.demands checks)
  have hstart : ∀ path, start.entry path = {} := fun _ ↦ rfl
  have hcompile : (∃ schema, file.compile checks = .ok schema) ↔
      (∀ entry ∈ file.fields, ∃ demands, entry.walk checks = .ok demands) ∧
        (start.meetAll demands).2 = .ok () := by
    constructor
    · rintro ⟨schema, h⟩
      obtain ⟨hwalks, hmeet⟩ := compile_eq_ok_iff.mp h
      exact ⟨hwalks, congrArg Prod.snd hmeet⟩
    · rintro ⟨hwalks, hok⟩
      exact ⟨_, compile_eq_ok_iff.mpr ⟨hwalks, Prod.ext rfl hok⟩⟩
  rw [hcompile, Schema.meetAll_eq_ok_iff_pairwise hstart (plain_of_mem _), List.pairwise_flatMap,
    ← and_assoc]
  simp only [Entry.Sound, forall_and]
  rfl

theorem exists_compile_perm {other : SchemaFile} (hfields : file.fields.Perm other.fields)
    (h : ∃ schema, file.compile checks = .ok schema) :
    ∃ result, other.compile checks = .ok result := by
  obtain ⟨hsound, hmeets⟩ := exists_compile_iff.mp h
  refine exists_compile_iff.mpr ⟨fun entry hentry ↦ hsound entry (hfields.mem_iff.mpr hentry), ?_⟩
  exact hfields.pairwise hmeets fun hmeet ↦ hmeet.symm

/-! ## What entries name -/

/-- The entries whose demands name a type for a path are those that are written for the path and
with the type. -/
theorem Entry.exists_named_demand_iff {entry : Entry} {path : String} {type : BaseType}
    (hsound : entry.Sound checks) :
    (∃ demand ∈ entry.demands checks, demand.path = path ∧
      ∃ rule, demand.rule? = some rule ∧ rule.type = type ∧ rule.implicit = false) ↔
        entry.place = path ∧ entry.writtenType.baseType? = some type := by
  have hwritten : ∀ {fieldType : FieldType}, entry.fieldType checks = .ok fieldType →
      entry.writtenType.baseType? = fieldType.baseType? := by
    intro fieldType hfieldType
    rw [FieldType.baseType?, FieldType.baseType?, (of_fieldType_eq_ok hfieldType).1]
  constructor
  · rintro ⟨demand, hdemand, rfl, rule, hrule, rfl, hnamed⟩
    rcases rule?_of_mem_demands hdemand hrule with
      ⟨fieldType, resolved, hfieldType, hresolved, hpath, rfl⟩ | ⟨kind, rfl⟩
    · have hresolvednamed : resolved.implicit = false := hnamed
      rw [hwritten hfieldType, FieldType.baseType?_of_resolve hresolved, hresolvednamed]
      exact ⟨hpath.symm, rfl⟩
    · cases hnamed
  · rintro ⟨rfl, hbase⟩
    obtain ⟨demands, hdemands⟩ := hsound.1
    obtain ⟨fieldType, hfieldType, hwalk⟩ := bind_eq_ok_iff.mp hdemands
    obtain ⟨-, -, resolved, hresolved, rfl⟩ := Schema.fieldWalk_eq_ok_iff.mp hwalk
    rw [hwritten hfieldType, FieldType.baseType?_of_resolve hresolved] at hbase
    cases hnamed : resolved.implicit with
    | true => rw [hnamed] at hbase; cases hbase
    | false =>
      rw [hnamed] at hbase
      rw [demands, hdemands]
      exact ⟨_, declared_mem_walk entry.place resolved entry.presence.strictness, rfl, _, rfl,
        Option.some.inj hbase, hnamed⟩

theorem hasNamedRuleFor_iff_of_compile (h : file.compile checks = .ok schema) (path : String)
    (type : BaseType) : (schema.entry path).hasNamedRuleFor type = true ↔
      ∃ entry ∈ file.fields, entry.place = path ∧ entry.writtenType.baseType? = some type := by
  obtain ⟨hsound, -⟩ := exists_compile_iff.mp ⟨schema, h⟩
  obtain ⟨-, hmeet⟩ := compile_eq_ok_iff.mp h
  rw [← show _ = schema from congrArg Prod.fst hmeet,
    Schema.hasNamedRuleFor_meetAll_iff (congrArg Prod.snd hmeet) path]
  constructor
  -- Nothing is named before the entries, so a name is one that a demand of an entry brings.
  · rintro (hbefore | ⟨demand, hmem, hnames⟩)
    · cases hbefore
    · obtain ⟨entry, hentry, hmem⟩ := List.mem_flatMap.mp hmem
      exact ⟨entry, hentry,
        (Entry.exists_named_demand_iff (hsound entry hentry)).mp ⟨demand, hmem, hnames⟩⟩
  · rintro ⟨entry, hentry, hnames⟩
    obtain ⟨demand, hmem, hnames⟩ :=
      (Entry.exists_named_demand_iff (hsound entry hentry)).mpr hnames
    exact Or.inr ⟨demand, List.mem_flatMap.mpr ⟨entry, hentry, hmem⟩, hnames⟩

theorem singleContainers_of_compile (h : file.compile checks = .ok schema) :
    schema.SingleContainers := by
  obtain ⟨-, hmeet⟩ := compile_eq_ok_iff.mp h
  rw [← show _ = schema from congrArg Prod.fst hmeet]
  exact (Schema.singleContainers_start _).meetAll _

theorem implicit_iff_of_compile (h : file.compile checks = .ok schema) {path : String}
    {kind : ContainerKind} {rule : Rule} (hrule : rule ∈ (schema.entry path).rules)
    (htype : rule.type = kind.type) : rule.implicit = true ↔
      ∀ entry ∈ file.fields, entry.place = path →
        entry.writtenType.baseType? ≠ some kind.type := by
  rw [FieldDefinition.implicit_iff (singleContainers_of_compile h path kind) hrule htype,
    ← Bool.not_eq_true, hasNamedRuleFor_iff_of_compile h]
  simp only [not_exists, not_and, ne_eq]

/-! ## Files by their pairs of entries -/

/-- **A file compiles if every entry does by itself and every two entries do together**, and then
its entries compile in every order to the same schema, but for the order of rules and the limits of
lists. A rule for a kind of container is implicit in it unless an entry names the kind for the
path. -/
theorem compile_iff_pairs (file : SchemaFile) (checks : CustomChecks) :
    ((∃ schema, file.compile checks = .ok schema) ↔
      (∀ entry ∈ file.fields, ∃ schema,
        { file with fields := [entry] }.compile checks = .ok schema) ∧
      file.fields.Pairwise fun first second ↦ ∃ schema,
        { file with fields := [first, second] }.compile checks = .ok schema) ∧
    ∀ schema, file.compile checks = .ok schema →
      (∀ fields, file.fields.Perm fields → ∃ result,
        { file with fields }.compile checks = .ok result ∧ schema.SameFields result) ∧
      ∀ path (kind : ContainerKind), ∀ rule ∈ (schema.entry path).rules, rule.type = kind.type →
        (rule.implicit = true ↔ ∀ entry ∈ file.fields, entry.place = path →
          entry.writtenType.baseType? ≠ some kind.type) := by
  constructor
  · simp only [exists_compile_iff, List.forall_mem_cons, List.pairwise_cons, List.not_mem_nil,
      false_implies, implies_true, List.Pairwise.nil, and_true]
    constructor
    · rintro ⟨hsound, hmeets⟩
      refine ⟨hsound, hmeets.imp_of_mem fun hfirst hsecond hmeet ↦ ?_⟩
      exact ⟨⟨hsound _ hfirst, hsound _ hsecond⟩, hmeet⟩
    · rintro ⟨hsound, hpairs⟩
      exact ⟨hsound, hpairs.imp fun hpair ↦ hpair.2⟩
  · intro schema hschema
    refine ⟨fun fields hfields ↦ ?_, fun path kind rule ↦ implicit_iff_of_compile hschema⟩
    obtain ⟨result, hresult⟩ : ∃ result, { file with fields }.compile checks = .ok result :=
      exists_compile_perm hfields ⟨schema, hschema⟩
    obtain ⟨-, hmeet⟩ := compile_eq_ok_iff.mp hschema
    obtain ⟨-, hother⟩ := compile_eq_ok_iff.mp hresult
    have hsame := Schema.sameFields_meetAll (hfields.flatMap_right (Entry.demands checks))
      (Schema.singleContainers_start file.ignoreExtraFields) (congrArg Prod.snd hmeet)
      (congrArg Prod.snd hother)
    rw [hmeet, hother] at hsame
    exact ⟨result, hresult, hsame⟩

/-- The elements of a list, the list, and the object around it, which is needed before it is named.
A list that is required does not go with optional elements, whatever stands between the two. -/
theorem compile_iff_pairs_elements :
    let elements : Entry := { path := "a.b[]", presence := .optional }
    let list : Entry := { path := "a.b", presence := .optional, type := some "list" }
    let object : Entry := { path := "a", type := some "object?" }
    let required : Entry := { path := "a.b" }
    (∃ schema result, compile { fields := [elements, list, object] } {} = .ok schema ∧
      compile { fields := [object, list, elements] } {} = .ok result ∧ schema.SameFields result ∧
      (∀ rule ∈ (schema.entry "a").rules, rule.type = .object → rule.implicit = false) ∧
      ∀ rule ∈ (schema.entry Path.root).rules, rule.type = .object → rule.implicit = true) ∧
    ¬ ∃ schema, compile { fields := [elements, object, required] } {} = .ok schema := by
  intro elements list object required
  constructor
  · have hcompile : ∃ schema, compile { fields := [elements, list, object] } {} = .ok schema := by
      unfold elements list object
      exact ⟨_, rfl⟩
    have hobject : object.place = "a" ∧ object.writtenType.baseType? = some .object := by
      unfold object
      exact ⟨rfl, rfl⟩
    have hroot : ∀ entry ∈ [elements, list, object], entry.place ≠ Path.root := by
      unfold elements list object
      decide
    obtain ⟨schema, hschema⟩ := hcompile
    obtain ⟨hperm, himplicit⟩ :=
      (compile_iff_pairs { fields := [elements, list, object] } {}).2 schema hschema
    obtain ⟨result, hresult, hsame⟩ := hperm _ (List.reverse_perm _).symm
    refine ⟨schema, result, hschema, hresult, hsame, fun rule hrule htype ↦ ?_,
      fun rule hrule htype ↦ ?_⟩
    · rw [← Bool.not_eq_true, himplicit "a" .object rule hrule htype]
      exact fun hnone ↦ hnone object (by simp) hobject.1 hobject.2
    · rw [himplicit Path.root .object rule hrule htype]
      exact fun entry hentry hplace ↦ absurd hplace (hroot entry hentry)
  · rw [(compile_iff_pairs { fields := [elements, object, required] } {}).1]
    rintro ⟨-, hpairs⟩
    obtain ⟨schema, hschema⟩ := List.rel_of_pairwise_cons hpairs (show required ∈ _ by simp)
    unfold elements required at hschema
    cases hschema

end SchemaFile

end DocumentSchema
