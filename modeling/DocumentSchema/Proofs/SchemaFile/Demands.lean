import DocumentSchema.Proofs.Schema.Confluence
import DocumentSchema.SchemaFile
import Mathlib.Data.List.Pairwise

/-!
# The demands of a schema file

A schema file makes the demands of its entries, one walk after the other, on a schema that knows
nothing. Whether an entry has a walk, and which one, does not depend on the other entries, so a file
is as good as one list of demands. These are plain: an entry without a type does not allow null, and
a rule that nobody named is for a container or accepts everything.
-/

namespace DocumentSchema

namespace SchemaFile

variable {checks : CustomChecks} {schema result : Schema}

namespace Entry

variable {entry : Entry} {type : FieldType} {demand : Demand} {rule : Rule}

def place (entry : Entry) : String := Path.normalize (trim entry.path)

/-- The walk of the declaration that an entry makes, or what is wrong with the entry by itself. -/
def walk (checks : CustomChecks) (entry : Entry) : Except SchemaError (List Demand) := do
  let type ← entry.fieldType checks
  Schema.fieldWalk entry.path entry.presence type

/-- The demands of an entry. -/
def demands (checks : CustomChecks) (entry : Entry) : List Demand :=
  match entry.walk checks with
  | .ok demands => demands
  | .error _ => []

/-- The entry names the type of lists. -/
def NamesList (entry : Entry) : Prop :=
  (entry.type.bind fun written ↦ BaseType.ofName? (FieldType.readName written).1) = some .list

instance : DecidablePred NamesList := fun _ ↦ inferInstanceAs (Decidable (_ = _))

def writtenType (entry : Entry) : FieldType :=
  match entry.type with
  | some name => .named name
  | none => .untyped

@[simp] theorem name_writtenType (entry : Entry) :
    entry.writtenType.name = entry.type.map fun written ↦ (FieldType.readName written).1 := by
  rw [writtenType]
  cases entry.type <;> simp

@[simp] theorem function_writtenType (entry : Entry) : entry.writtenType.function = none := by
  rw [writtenType]
  cases entry.type <;> simp

theorem nullable_writtenType (h : entry.writtenType.name = none) :
    entry.writtenType.nullable = false := by
  rw [name_writtenType, Option.map_eq_none_iff] at h
  rw [writtenType, h]
  rfl

theorem fieldType_eq (checks : CustomChecks) (entry : Entry) :
    entry.fieldType checks = match entry.validator with
      | none => .ok (entry.writtenType.withParams entry.params)
      | some name =>
        if entry.writtenType.name ≠ some BaseType.custom.name then
          Params.invalid entry.path s!"validator '{name}' requires type 'custom'"
        else match checks.get? name with
          | some function => .ok ((entry.writtenType.withFunction function).withParams entry.params)
          | none => Params.invalid entry.path s!"no custom validator registered as '{name}'" := rfl

/-- What the type of an entry says of names, null and functions. -/
theorem of_fieldType_eq_ok (h : entry.fieldType checks = .ok type) :
    type.name = entry.writtenType.name ∧ type.nullable = entry.writtenType.nullable ∧
      ∀ function, type.function = some function → ∃ name, checks.get? name = some function := by
  rw [fieldType_eq] at h
  cases hvalidator : entry.validator with
  | none =>
    simp only [hvalidator] at h
    obtain rfl := Except.ok.inj h
    simp
  | some name =>
    simp only [hvalidator] at h
    by_cases hcustom : entry.writtenType.name ≠ some BaseType.custom.name
    · rw [if_pos hcustom] at h
      cases h
    · rw [if_neg hcustom] at h
      cases hget : checks.get? name with
      | none => rw [hget] at h; cases h
      | some function =>
        simp only [hget] at h
        obtain rfl := Except.ok.inj h
        have hsupplied : ∃ name, checks.get? name = some function := ⟨name, hget⟩
        simp [hsupplied]

/-- A demand of an entry has the rule of the type of the entry, at its place, or one for a
container. -/
theorem rule?_of_mem_demands (hdemand : demand ∈ entry.demands checks)
    (hrule : demand.rule? = some rule) :
    (∃ type resolved, entry.fieldType checks = .ok type ∧
        type.resolve entry.place = .ok resolved ∧ demand.path = entry.place ∧
        rule = ⟨resolved.type, resolved.nullable, resolved.implicit, resolved.check⟩) ∨
      ∃ kind : ContainerKind, rule = ⟨kind.type, false, true, kind.check⟩ := by
  rw [demands] at hdemand
  cases hwalk : entry.walk checks with
  | error error => rw [hwalk] at hdemand; cases hdemand
  | ok found =>
    rw [hwalk] at hdemand
    obtain ⟨type, htype, hwalk⟩ := bind_eq_ok_iff.mp hwalk
    obtain ⟨-, -, resolved, hresolved, rfl⟩ := Schema.fieldWalk_eq_ok_iff.mp hwalk
    refine (rule?_of_mem_walk hdemand hrule).imp_left ?_
    rintro ⟨hpath, rfl⟩
    exact ⟨type, resolved, htype, hresolved, hpath, rfl⟩

theorem plain_of_mem_demands (hdemand : demand ∈ entry.demands checks) : demand.Plain := by
  intro rule hrule
  rcases rule?_of_mem_demands hdemand hrule with
    ⟨type, resolved, htype, hresolved, -, rfl⟩ | ⟨kind, rfl⟩
  · obtain ⟨hnullable, himplicit, hany, -, -⟩ := FieldType.of_resolve_eq_ok hresolved
    refine ⟨FieldType.type_check_of_resolve hresolved, fun h ↦ ?_⟩
    have hname : type.name = none := Option.isNone_iff_eq_none.mp (himplicit.symm.trans h)
    obtain ⟨hwritten, hsays, -⟩ := of_fieldType_eq_ok htype
    rw [hnullable, hsays]
    exact ⟨nullable_writtenType (hwritten ▸ hname), Or.inl (hany hname)⟩
  · refine ⟨kind.type_check, fun _ ↦ ⟨rfl, Or.inr ?_⟩⟩
    cases kind <;> rfl

theorem namesList_of_mem_demands (hdemand : demand ∈ entry.demands checks)
    (hrule : demand.rule? = some rule) (htype : rule.type = .list)
    (hnamed : rule.implicit = false) :
    entry.NamesList ∧ demand.path = entry.place ∧
      ∃ type resolved, entry.fieldType checks = .ok type ∧
        type.resolve entry.place = .ok resolved ∧ rule.check = resolved.check := by
  rcases rule?_of_mem_demands hdemand hrule with
    ⟨type, resolved, hfieldtype, hresolved, hpath, rfl⟩ | ⟨kind, rfl⟩
  · refine ⟨?_, hpath, type, resolved, hfieldtype, hresolved, rfl⟩
    obtain ⟨hwritten, -, -⟩ := of_fieldType_eq_ok hfieldtype
    obtain ⟨-, himplicit, -, hbase, -⟩ := FieldType.of_resolve_eq_ok hresolved
    rw [hwritten, name_writtenType] at himplicit hbase
    cases hname : entry.type with
    | none =>
      rw [hname] at himplicit
      exact absurd (himplicit.symm.trans hnamed) (by decide)
    | some written =>
      rw [NamesList, hname, Option.bind_some, ← htype]
      exact hbase _ (by rw [hname, Option.map_some])
  · cases hnamed

end Entry

theorem declareEntries_cons (entry : Entry) (rest : List Entry) :
    declareEntries checks schema (entry :: rest) = match entry.walk checks with
      | .error error => .error error
      | .ok demands => match schema.meetAll demands with
        | (next, .ok ()) => declareEntries checks next rest
        | (_, .error error) => .error error := by
  rw [declareEntries, Entry.declaration, Entry.walk]
  cases entry.fieldType checks with
  | error error => rfl
  | ok type =>
    simp only [Except.map, bind, Except.bind, Schema.declare, Schema.declareField_eq]
    cases Schema.fieldWalk entry.path entry.presence type <;> rfl

/-- **A file makes the demands of its entries**, if nothing is wrong with any entry by itself. -/
theorem declareEntries_eq_ok_iff {entries : List Entry} :
    declareEntries checks schema entries = .ok result ↔
      (∀ entry ∈ entries, ∃ demands, entry.walk checks = .ok demands) ∧
        schema.meetAll (entries.flatMap (Entry.demands checks)) = (result, .ok ()) := by
  induction entries generalizing schema with
  | nil => simp [declareEntries, Schema.meetAll]
  | cons entry rest ih =>
    rw [declareEntries_cons, List.flatMap_cons, Entry.demands]
    cases hwalk : entry.walk checks with
    | error error => simp [hwalk]
    | ok demands =>
      simp only [List.forall_mem_cons, hwalk, Except.ok.injEq, exists_eq', true_and]
      cases hmeet : schema.meetAll demands with
      | mk next outcome =>
        cases outcome with
        | ok _ => rw [Schema.meetAll_append_ok hmeet]; exact ih
        -- A contradiction ends the file here, and the one list of demands as well.
        | error error =>
          rw [Schema.meetAll_append_error hmeet]
          simp

theorem compile_eq_ok_iff {file : SchemaFile} : file.compile checks = .ok schema ↔
    (∀ entry ∈ file.fields, ∃ demands, entry.walk checks = .ok demands) ∧
      ({ ignoreExtraFields := file.ignoreExtraFields } : Schema).meetAll
        (file.fields.flatMap (Entry.demands checks)) = (schema, .ok ()) :=
  declareEntries_eq_ok_iff

theorem plain_of_mem (entries : List Entry) :
    ∀ demand ∈ entries.flatMap (Entry.demands checks), demand.Plain := by
  intro demand hdemand
  obtain ⟨entry, -, hdemand⟩ := List.mem_flatMap.mp hdemand
  exact Entry.plain_of_mem_demands hdemand

/-! ## Functions of a file -/

/-- A custom check of the rule is one of the checks that are supplied. -/
def Supplied (checks : CustomChecks) (rule : Rule) : Prop :=
  rule.check.type ≠ .custom ∨ ∃ name function params, checks.get? name = some function ∧
    rule.check = .custom function params

theorem Entry.supplied_of_mem_demands {entry : Entry} {demand : Demand} {rule : Rule}
    (hdemand : demand ∈ entry.demands checks) (hrule : demand.rule? = some rule) :
    Supplied checks rule := by
  rcases Entry.rule?_of_mem_demands hdemand hrule with
    ⟨type, resolved, htype, hresolved, -, rfl⟩ | ⟨kind, rfl⟩
  · by_cases hcustom : resolved.check.type = .custom
    · obtain ⟨-, -, -, -, hbuild⟩ := FieldType.of_resolve_eq_ok hresolved
      obtain ⟨function, hfunction, hcheck⟩ := Check.eq_custom_of_build hbuild hcustom
      obtain ⟨name, hname⟩ := (of_fieldType_eq_ok htype).2.2 function hfunction
      exact Or.inr ⟨name, function, _, hname, hcheck⟩
    · exact Or.inl hcustom
  · left
    cases kind <;> decide

/-! ## Compatible demands -/

variable {entries : List Entry}

/-- No two entries name a list type for one place. -/
def ListsDistinct (entries : List Entry) : Prop :=
  entries.Pairwise fun first second ↦ first.NamesList → second.NamesList →
    first.place ≠ second.place

instance : DecidablePred ListsDistinct := fun _ ↦ inferInstanceAs (Decidable (List.Pairwise _ _))

theorem ListsDistinct.eq (h : ListsDistinct entries) {first second : Entry}
    (hfirst : first ∈ entries) (hsecond : second ∈ entries) (hfirstlist : first.NamesList)
    (hsecondlist : second.NamesList) (hplace : first.place = second.place) : first = second := by
  by_contra hne
  have hsymm : Std.Symm fun first second : Entry ↦ first.NamesList → second.NamesList →
      first.place ≠ second.place := ⟨fun _ _ h hsecond hfirst ↦ (h hfirst hsecond).symm⟩
  exact h.forall hfirst hsecond hne hfirstlist hsecondlist hplace

theorem Entry.check_of_implicit {entry : Entry} {demand : Demand} {rule : Rule}
    (hdemand : demand ∈ entry.demands checks) (hrule : demand.rule? = some rule)
    (htype : rule.type = .list) (himplicit : rule.implicit = true) : rule.check = .list {} := by
  rcases Entry.rule?_of_mem_demands hdemand hrule with
    ⟨type, resolved, -, hresolved, -, rfl⟩ | ⟨kind, rfl⟩
  · obtain ⟨-, hnone, hany, -, -⟩ := FieldType.of_resolve_eq_ok hresolved
    have hany := hany (Option.isNone_iff_eq_none.mp (hnone.symm.trans himplicit))
    exact absurd (hany.symm.trans htype) (by decide)
  · cases kind with
    | object => cases htype
    | list => rfl

/-- The demands of a file do not replace each other's rules with others. -/
theorem compatible_of_mem (h : ListsDistinct entries) {first second : Demand}
    (hfirst : first ∈ entries.flatMap (Entry.demands checks))
    (hsecond : second ∈ entries.flatMap (Entry.demands checks))
    (hpath : first.path = second.path) : first.Compatible second := by
  obtain ⟨entry, hentry, hfirst⟩ := List.mem_flatMap.mp hfirst
  obtain ⟨next, hnext, hsecond⟩ := List.mem_flatMap.mp hsecond
  intro rule other hrule hother htype hstructural himplicit
  have hruletype := (Entry.plain_of_mem_demands hfirst rule hrule).1
  have hothertype := (Entry.plain_of_mem_demands hsecond other hother).1
  cases hkind : rule.type with
  | object =>
    rw [Check.eq_object_of_type (hruletype.trans hkind),
      Check.eq_object_of_type (hothertype.trans (htype.symm.trans hkind))]
  | list =>
    have hotherkind := htype.symm.trans hkind
    cases hnamed : rule.implicit with
    | true =>
      rw [Entry.check_of_implicit hfirst hrule hkind hnamed,
        Entry.check_of_implicit hsecond hother hotherkind (himplicit.symm.trans hnamed)]
    | false =>
      obtain ⟨hlist, hplace, type, resolved, hfieldtype, hresolved, hcheck⟩ :=
        Entry.namesList_of_mem_demands hfirst hrule hkind hnamed
      obtain ⟨hnextlist, hnextplace, nexttype, nextresolved, hnextfieldtype, hnextresolved,
        hnextcheck⟩ := Entry.namesList_of_mem_demands hsecond hother hotherkind
          (himplicit.symm.trans hnamed)
      -- Both name a list type for one place, so they are the same entry.
      obtain rfl := h.eq hentry hnext hlist hnextlist
        (hplace.symm.trans (hpath.trans hnextplace))
      obtain rfl := Except.ok.inj (hfieldtype.symm.trans hnextfieldtype)
      obtain rfl := Except.ok.inj (hresolved.symm.trans hnextresolved)
      rw [hcheck, hnextcheck]
  | any | number | integer | string | boolean | custom =>
    rw [hkind] at hstructural
    cases hstructural

end SchemaFile

end DocumentSchema
