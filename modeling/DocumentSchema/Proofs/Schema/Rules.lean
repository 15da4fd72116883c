import DocumentSchema.Proofs.Check.Types
import DocumentSchema.Proofs.Schema.Reachable

/-!
# Rules check their types

A rule carries a type and a check. Which rules stand for a path is decided by their types alone,
while values are run through the checks, so whatever follows from there being a rule of a type needs
the two to agree. They do in every schema that declarations lead to: a check is built for the type
that it is filed under, and rules only move as a whole.
-/

namespace DocumentSchema

@[simp] theorem ContainerKind.type_check (kind : ContainerKind) : kind.check.type = kind.type := by
  cases kind <;> rfl

/-- What is understood of a type. One without a name is implicit and accepts everything. -/
theorem FieldType.of_resolve_eq_ok {type : FieldType} {field : String} {resolved : ResolvedType}
    (h : type.resolve field = .ok resolved) :
    resolved.nullable = type.nullable ∧ resolved.implicit = type.name.isNone ∧
      (type.name = none → resolved.type = .any) ∧
      (∀ name, type.name = some name → BaseType.ofName? name = some resolved.type) ∧
      Check.build resolved.type field type.params type.function = .ok resolved.check := by
  rw [resolve] at h
  cases hname : type.name with
  | none =>
    simp only [hname, bind_eq_ok_iff, pure_eq_ok_iff, Except.ok.injEq] at h
    obtain ⟨_, rfl, check, hbuild, rfl⟩ := h
    exact ⟨rfl, rfl, fun _ ↦ rfl, fun _ ↦ (nomatch ·), hbuild⟩
  | some name =>
    cases hbase : BaseType.ofName? name with
    | none =>
      simp only [hname, hbase, bind_eq_ok_iff] at h
      obtain ⟨_, h, -⟩ := h
      cases h
    | some base =>
      simp only [hname, hbase, bind_eq_ok_iff, pure_eq_ok_iff, Except.ok.injEq] at h
      obtain ⟨_, rfl, check, hbuild, rfl⟩ := h
      refine ⟨rfl, rfl, (nomatch ·), fun other hother ↦ ?_, hbuild⟩
      rw [← Option.some.inj hother, hbase]

theorem FieldType.type_check_of_resolve {type : FieldType} {field : String}
    {resolved : ResolvedType} (h : type.resolve field = .ok resolved) :
    resolved.check.type = resolved.type := Check.type_of_build (of_resolve_eq_ok h).2.2.2.2

/-- The type that is named, if its name is understood. -/
def FieldType.baseType? (type : FieldType) : Option BaseType := type.name.bind BaseType.ofName?

theorem FieldType.baseType?_of_resolve {type : FieldType} {field : String}
    {resolved : ResolvedType} (h : type.resolve field = .ok resolved) :
    type.baseType? = if resolved.implicit then none else some resolved.type := by
  obtain ⟨-, himplicit, -, hbase, -⟩ := of_resolve_eq_ok h
  rw [baseType?, himplicit]
  cases hname : type.name with
  | none => rfl
  | some name => exact hbase name hname

/-! ## The demands of a walk -/

theorem part_of_mem_containersAbove {fuel : Nat} {path : String} {strictness : Strictness}
    {demand : Demand} (h : demand ∈ containersAbove fuel path strictness) :
    ∃ kind, demand.part = .container kind := by
  induction fuel generalizing path strictness with
  | zero => cases h
  | succ fuel ih =>
    rw [containersAbove] at h
    split at h
    · cases h
    · rcases List.mem_cons.mp h with rfl | h
      · exact ⟨_, rfl⟩
      · exact ih h

/-- The rule of a demand of a walk is that of the declared type, at the declared path, or one for a
container. -/
theorem rule?_of_mem_walk {path : String} {type : ResolvedType} {strictness : Strictness}
    {demand : Demand} (h : demand ∈ walk path type strictness) {rule : Rule}
    (hrule : demand.rule? = some rule) :
    (demand.path = path ∧ rule = ⟨type.type, type.nullable, type.implicit, type.check⟩) ∨
      ∃ kind : ContainerKind, rule = ⟨kind.type, false, true, kind.check⟩ := by
  rw [walk, List.mem_append, List.mem_cons] at h
  rw [Demand.rule?] at hrule
  rcases h with helement | rfl | habove
  · split at helement
    · rw [List.mem_singleton.mp helement] at hrule
      cases hrule
    · cases helement
  · exact Or.inl ⟨rfl, (Option.some.inj hrule).symm⟩
  · obtain ⟨kind, hpart⟩ := part_of_mem_containersAbove habove
    rw [hpart] at hrule
    exact Or.inr ⟨kind, (Option.some.inj hrule).symm⟩

/-! ## Every rule checks its type -/

namespace Schema

variable {schema : Schema} {demands : List Demand}

/-- Every rule for every path is as described. -/
def EveryRule (described : Rule → Prop) (schema : Schema) : Prop :=
  ∀ path, ∀ rule ∈ (schema.entry path).rules, described rule

theorem everyRule_of_fields {described : Rule → Prop}
    (h : ∀ field ∈ schema.fields, ∀ rule ∈ field.2.rules, described rule) :
    schema.EveryRule described := by
  intro path rule hrule
  rw [entry, field?] at hrule
  cases hget : schema.fields.get? path with
  | none => rw [hget] at hrule; cases hrule
  | some field =>
    rw [hget] at hrule
    exact h (path, field) (Entries.mem_of_get?_eq_some hget) rule hrule

theorem EveryRule.set {described : Rule → Prop} (h : EveryRule described schema) {demand : Demand}
    (hdemand : ∀ rule, demand.rule? = some rule → described rule) :
    EveryRule described (schema.set demand.path (demand.update (schema.entry demand.path))) := by
  intro path rule hrule
  rw [entry_set] at hrule
  split at hrule
  · rcases Demand.mem_rules_update hrule with hrule | hrule
    · exact h demand.path rule hrule
    · exact hdemand rule hrule
  · exact h path rule hrule

theorem EveryRule.meetAll {described : Rule → Prop} (h : EveryRule described schema)
    (hdemands : ∀ demand ∈ demands, ∀ rule, demand.rule? = some rule → described rule) :
    EveryRule described (schema.meetAll demands).1 :=
  meetAll_preserves h fun hdemand hknown ↦ hknown.set (hdemands _ hdemand)

/-- **Every rule of a schema checks its type.** -/
theorem Reachable.check_type (h : schema.Reachable) :
    EveryRule (fun rule ↦ rule.check.type = rule.type) schema := by
  refine h.of_demands (fun path rule hrule ↦ nomatch hrule) id ?_
  intro schema path presence type demands hwalk demand hdemand hknown
  refine hknown.set fun rule hrule ↦ ?_
  obtain ⟨-, -, resolved, hresolved, rfl⟩ := fieldWalk_eq_ok_iff.mp hwalk
  rcases rule?_of_mem_walk hdemand hrule with ⟨-, rfl⟩ | ⟨kind, rfl⟩
  · exact FieldType.type_check_of_resolve hresolved
  · exact kind.type_check

end Schema

end DocumentSchema
