import DocumentSchema.Proofs.Schema.Contradiction
import DocumentSchema.Proofs.Schema.WellFormed

/-!
# Null and the types that are named

A declaration that names a type says whether null is allowed, and so may one that names none. What
is known of a path is whether any of them allowed null, and a type that is named is held against
that, although only the types that were named before should count.

So everything is in order exactly where no declaration without a type allows null against a type
that is named: there all types that are named for a path agree, and a further one is refused if it
contradicts them and for no other reason that has to do with null. Elsewhere a type can be accepted
that contradicts an earlier one, or be refused although it contradicts none.
-/

namespace DocumentSchema

open DocumentSchema.Path

def FieldType.isNamed (type : FieldType) : Bool := type.name.isSome

theorem FieldType.implicit_of_resolve {type : FieldType} {field : String} {resolved : ResolvedType}
    (h : type.resolve field = .ok resolved) : resolved.implicit = !type.isNamed := by
  rw [(of_resolve_eq_ok h).2.1, isNamed, Option.not_isSome]

theorem FieldType.nullable_of_resolve {type : FieldType} {field : String} {resolved : ResolvedType}
    (h : type.resolve field = .ok resolved) : resolved.nullable = type.nullable :=
  (of_resolve_eq_ok h).1

/-! ## What is known of null -/

/-- The fault that null was spoken of before, by the answer that is given now. -/
def SchemaError.contradictsNull (path : String) : Bool → SchemaError
  | true => .alreadyNonNullable (stripListMarkers path)
  | false => .alreadyNullable (stripListMarkers path)

def SchemaError.IsAboutNull (error : SchemaError) : Prop :=
  ∃ path nullable, error = contradictsNull path nullable

namespace FieldDefinition

variable {field : FieldDefinition} {path : String} {nullable : Bool}

theorem checkNullability_of_agrees (h : field.hasExplicitRule = true → field.nullable = nullable) :
    field.checkNullability path nullable = .ok () := by
  rw [checkNullability]
  rcases hexplicit : field.hasExplicitRule
  · rfl
  · rw [h hexplicit]
    simp

theorem checkNullability_of_contradicts (hexplicit : field.hasExplicitRule = true)
    (hne : field.nullable ≠ nullable) :
    field.checkNullability path nullable = .error (.contradictsNull path nullable) := by
  have hdiffer : (field.nullable == nullable) = false := beq_false_of_ne hne
  rw [checkNullability, hexplicit, hdiffer]
  rcases nullable <;> rfl

end FieldDefinition

/-- What is known of null at a path, told from the types that declarations gave it. -/
structure NullAccount (types : List FieldType) (field : FieldDefinition) : Prop where
  named : field.hasExplicitRule = true ↔ ∃ type ∈ types, type.isNamed = true
  nullable : field.nullable = true ↔ ∃ type ∈ types, type.nullable = true
  rule : ∀ rule ∈ field.rules, rule.implicit = false →
    ∃ type ∈ types, type.isNamed = true ∧ type.nullable = rule.nullable
  /-- The types that are named agree with what is known, unless null was allowed without a type. -/
  agrees : (∀ type ∈ types, type.isNamed = true → type.nullable = field.nullable) ∨
    ∃ type ∈ types, type.isNamed = false ∧ type.nullable = true

/-- Null is not allowed without a type where a type is named that does not allow it. -/
def NullsAgree (types : List FieldType) : Prop :=
  ∀ silent ∈ types, silent.isNamed = false → silent.nullable = true →
    ∀ named ∈ types, named.isNamed = true → named.nullable = true

namespace NullAccount

variable {types : List FieldType} {field : FieldDefinition} {demand : Demand} {type : FieldType}
  {resolved : ResolvedType}

theorem empty : NullAccount [] {} where
  named := by simp [FieldDefinition.hasExplicitRule]
  nullable := by simp
  rule := by simp
  agrees := by simp

theorem nullable_eq_iff (h : NullAccount types field) :
    (∀ type ∈ types, type.isNamed = true → type.nullable = field.nullable) ↔ NullsAgree types := by
  constructor
  · intro hall silent hsilent _ hnullable named hnamed hisnamed
    rw [hall named hnamed hisnamed]
    exact h.nullable.mpr ⟨silent, hsilent, hnullable⟩
  · intro hagree
    refine h.agrees.elim id ?_
    rintro ⟨silent, hsilent, hunnamed, hnullable⟩ named hnamed hisnamed
    rw [hagree silent hsilent hunnamed hnullable named hnamed hisnamed]
    exact (h.nullable.mpr ⟨silent, hsilent, hnullable⟩).symm

theorem update_silent (h : NullAccount types field)
    (hsilent : ∀ rule, demand.rule? = some rule → rule.implicit = true ∧ rule.nullable = false) :
    NullAccount types (demand.update field) := by
  have hany : demand.rule?.any (!·.implicit) = false ∧ demand.rule?.any (·.nullable) = false := by
    rcases hrule : demand.rule? with _ | rule
    · exact ⟨rfl, rfl⟩
    · obtain ⟨himplicit, hnullable⟩ := hsilent rule hrule
      exact ⟨by simp [himplicit], by simp [hnullable]⟩
  have hexplicit : (demand.update field).hasExplicitRule = field.hasExplicitRule := by
    rw [Demand.hasExplicitRule_update, hany.1, Bool.or_false]
  have hnullable : (demand.update field).nullable = field.nullable := by
    rw [Demand.nullable_update, hany.2, Bool.or_false]
  constructor
  · rw [hexplicit]
    exact h.named
  · rw [hnullable]
    exact h.nullable
  · intro rule hrule hnamed
    rcases Demand.mem_rules_update hrule with hbefore | hadded
    · exact h.rule rule hbefore hnamed
    · rw [(hsilent rule hadded).1] at hnamed
      cases hnamed
  · rw [hnullable]
    exact h.agrees

/-- A type that contradicts nothing that was named agrees with the types before it, unless null was
allowed without a type. -/
theorem agrees_append (h : NullAccount types field)
    (hcheck : type.isNamed = true → field.hasExplicitRule = true →
      field.nullable = type.nullable) :
    (∀ named ∈ types ++ [type], named.isNamed = true →
        named.nullable = (field.nullable || type.nullable)) ∨
      ∃ silent ∈ types ++ [type], silent.isNamed = false ∧ silent.nullable = true := by
  by_cases hsilent : ∃ silent ∈ types ++ [type], silent.isNamed = false ∧ silent.nullable = true
  · exact Or.inr hsilent
  have hquiet : ∀ silent ∈ types ++ [type], silent.isNamed = false → silent.nullable = false := by
    intro silent hmem hunnamed
    by_contra hallowed
    exact hsilent ⟨silent, hmem, hunnamed, Bool.not_eq_false _ ▸ hallowed⟩
  have hall := h.agrees.resolve_right fun ⟨silent, hmem, hnull⟩ ↦
    hsilent ⟨silent, List.mem_append_left _ hmem, hnull⟩
  refine Or.inl fun named hmem hnamed ↦ ?_
  rw [List.mem_append, List.mem_singleton] at hmem
  rcases htype : type.isNamed
  · -- A type without a name says nothing here, so it is what was known before that counts.
    rw [hquiet type (by simp) htype, Bool.or_false]
    rcases hmem with hmem | rfl
    · exact hall named hmem hnamed
    · rw [htype] at hnamed
      cases hnamed
  · rcases hexplicit : field.hasExplicitRule
    · -- It is the first type that is named, and null was not allowed before.
      have hfirst : ∀ earlier ∈ types, earlier.isNamed = false := by
        intro earlier hearlier
        by_contra hname
        have hany := h.named.mpr ⟨earlier, hearlier, Bool.not_eq_false _ ▸ hname⟩
        rw [hexplicit] at hany
        cases hany
      have hbefore : field.nullable = false := by
        by_contra hallowed
        obtain ⟨earlier, hearlier, hnull⟩ := h.nullable.mp (Bool.not_eq_false _ ▸ hallowed)
        have hnot := hquiet earlier (List.mem_append_left _ hearlier) (hfirst earlier hearlier)
        rw [hnull] at hnot
        cases hnot
      rw [hbefore, Bool.false_or]
      rcases hmem with hmem | rfl
      · rw [hfirst named hmem] at hnamed
        cases hnamed
      · rfl
    · rw [hcheck htype hexplicit, Bool.or_self]
      rcases hmem with hmem | rfl
      · exact (hall named hmem hnamed).trans (hcheck htype hexplicit)
      · rfl

theorem update_declared (h : NullAccount types field) {path : String} {strictness : Strictness}
    (hresolved : type.resolve path = .ok resolved)
    (hcheck : (⟨path, strictness, .declared resolved⟩ : Demand).check field = .ok ()) :
    NullAccount (types ++ [type])
      ((⟨path, strictness, .declared resolved⟩ : Demand).update field) := by
  have himplicit := FieldType.implicit_of_resolve hresolved
  have hallows := FieldType.nullable_of_resolve hresolved
  have hexplicit : ((⟨path, strictness, .declared resolved⟩ : Demand).update field).hasExplicitRule
      = (field.hasExplicitRule || type.isNamed) := by
    rw [Demand.hasExplicitRule_update]
    simp [Demand.rule?, himplicit]
  have hnullable : ((⟨path, strictness, .declared resolved⟩ : Demand).update field).nullable
      = (field.nullable || type.nullable) := by
    rw [Demand.nullable_update]
    simp [Demand.rule?, hallows]
  constructor
  · rw [hexplicit, Bool.or_eq_true, h.named]
    simp [or_and_right, exists_or]
  · rw [hnullable, Bool.or_eq_true, h.nullable]
    simp [or_and_right, exists_or]
  · intro rule hrule hnamed
    rcases Demand.mem_rules_update hrule with hbefore | hadded
    · obtain ⟨earlier, hearlier, hsame⟩ := h.rule rule hbefore hnamed
      exact ⟨earlier, List.mem_append_left _ hearlier, hsame⟩
    · obtain rfl := Option.some.inj hadded
      rw [himplicit, Bool.not_eq_false'] at hnamed
      exact ⟨type, by simp, hnamed, hallows.symm⟩
  · rw [hnullable]
    refine h.agrees_append fun hname hknown ↦ ?_
    have hagree := (Demand.check_eq_ok_iff.mp hcheck).2
    simpa [Demand.nullable?, Demand.rule?, FieldDefinition.nullable?, himplicit, hallows, hname,
      hknown, agree?] using hagree

end NullAccount

/-! ## The types that declarations give a path -/

/-- The type that a declaration gives a path. -/
def Declaration.typeFor? (path : String) : Declaration → Option FieldType
  | .field written _ type => if normalize (trim written) = path then some type else none
  | .ignoreExtraFields => none

def typesFor (path : String) (declarations : List Declaration) : List FieldType :=
  declarations.filterMap (·.typeFor? path)

theorem typesFor_append (path : String) (first second : List Declaration) :
    typesFor path (first ++ second) = typesFor path first ++ typesFor path second :=
  List.filterMap_append

namespace Demand

variable {demand : Demand} {field : FieldDefinition} {error : SchemaError}

/-- A demand is refused on account of null only where a type is named against what is known. -/
theorem contradicts_of_isAboutNull (h : demand.check field = .error error)
    (hnull : error.IsAboutNull) : ∃ resolved, demand.part = .declared resolved ∧
      resolved.implicit = false ∧ field.hasExplicitRule = true ∧
      field.nullable ≠ resolved.nullable := by
  have hpresence : FailsOnly (¬·.IsAboutNull)
      (field.checkStrictness demand.path demand.strictness) := by
    rw [FieldDefinition.checkStrictness.eq_def]
    split
    · refine failsOnly_error ?_
      rintro ⟨path, nullable, hfault⟩
      rcases nullable <;> cases hfault
    · refine failsOnly_error ?_
      rintro ⟨path, nullable, hfault⟩
      rcases nullable <;> cases hfault
    · exact failsOnly_ok ()
  rw [check] at h
  rcases hstrictness : field.checkStrictness demand.path demand.strictness with fault | _
  · rw [hstrictness] at h
    exact absurd hnull (hpresence error (hstrictness.trans h))
  · rw [hstrictness] at h
    rcases hpart : demand.part with _ | resolved | _
    · rw [hpart] at h
      cases h
    · rcases himplicit : resolved.implicit
      · refine ⟨resolved, rfl, himplicit, ?_⟩
        by_contra hagree
        rw [not_and, not_not] at hagree
        simp only [hpart, himplicit, FieldDefinition.checkNullability_of_agrees hagree] at h
        cases h
      · simp only [hpart, himplicit] at h
        cases h
    · rw [hpart] at h
      cases h

/-- A type that is named against what is known is refused on account of null, if its presence is
not refused before. -/
theorem check_of_contradicts {path : String} {strictness : Strictness} {resolved : ResolvedType}
    (hpresence : field.checkStrictness path strictness = .ok ())
    (hnamed : resolved.implicit = false) (hexplicit : field.hasExplicitRule = true)
    (hne : field.nullable ≠ resolved.nullable) :
    (⟨path, strictness, .declared resolved⟩ : Demand).check field
      = .error (.contradictsNull path resolved.nullable) := by
  have hnull : field.checkNullability path resolved.nullable = _ :=
    FieldDefinition.checkNullability_of_contradicts hexplicit hne
  simp only [check, hpresence, hnamed]
  exact hnull

end Demand

namespace Schema

variable {schema result : Schema} {path written : String} {presence : Presence} {type : FieldType}
  {declarations : List Declaration} {types : List FieldType} {demands : List Demand}

theorem nullAccount_declare (h : NullAccount types (schema.entry path)) {declaration : Declaration}
    (hok : schema.declare declaration = (result, .ok ())) :
    NullAccount (types ++ typesFor path [declaration]) (result.entry path) := by
  rcases declaration with ⟨written, presence, type⟩ | -
  · obtain ⟨demands, hwalk, hmeet⟩ := declare_field_eq_ok_iff.mp hok
    have hdistinct := nodup_fieldWalk hwalk
    obtain rfl : (schema.meetAll demands).1 = result := congrArg Prod.fst hmeet
    have hall : (schema.meetAll demands).2 = .ok () := congrArg Prod.snd hmeet
    obtain ⟨-, -, resolved, hresolved, rfl⟩ := fieldWalk_eq_ok_iff.mp hwalk
    by_cases hplace : normalize (trim written) = path
    · have hone : typesFor path [.field written presence type] = [type] := by
        simp [typesFor, Declaration.typeFor?, hplace]
      rw [hplace] at hresolved hall hdistinct ⊢
      have hmem := declared_mem_walk path resolved presence.strictness
      have hcheck := check_of_meetAll_eq_ok hall hdistinct hmem
      rw [entry_meetAll_of_mem hall hdistinct hmem, hone]
      exact h.update_declared hresolved hcheck
    · have hnone : typesFor path [.field written presence type] = [] := by
        simp [typesFor, Declaration.typeFor?, hplace]
      rw [hnone, List.append_nil]
      by_cases hmem : path ∈
          (walk (normalize (trim written)) resolved presence.strictness).map (·.path)
      · obtain ⟨demand, hdemand, rfl⟩ := List.mem_map.mp hmem
        rw [entry_meetAll_of_mem hall hdistinct hdemand]
        refine h.update_silent fun rule hrule ↦ ?_
        rcases rule?_of_mem_walk hdemand hrule with ⟨hpath, -⟩ | ⟨kind, rfl⟩
        · exact absurd hpath.symm hplace
        · exact ⟨rfl, rfl⟩
      · rw [entry_meetAll_of_notMem hmem]
        exact h
  · obtain rfl : { schema with ignoreExtraFields := true } = result := congrArg Prod.fst hok
    rw [show typesFor path [.ignoreExtraFields] = [] from rfl, List.append_nil]
    exact h

/-- **What is known of null after declarations is told from the types they gave.** -/
theorem nullAccount_declareAll (h : NullAccount types (schema.entry path))
    (hok : schema.declareAll declarations = .ok result) :
    NullAccount (types ++ typesFor path declarations) (result.entry path) := by
  induction declarations generalizing schema types with
  | nil =>
    obtain rfl := Except.ok.inj hok
    simpa [typesFor] using h
  | cons declaration rest ih =>
    rw [declareAll] at hok
    split at hok
    · rename_i next hnext
      have hrest := ih (nullAccount_declare h hnext) hok
      rwa [List.append_assoc, ← typesFor_append, List.singleton_append] at hrest
    · cases hok

/-! ## Types that are named against what is known -/

/-- The presence of a declaration contradicts nothing at its path, nor at the elements of a list
that is named. -/
def AllowsPresence (schema : Schema) (path : String) (presence : Presence) (type : FieldType) :
    Prop :=
  (schema.entry path).checkStrictness path presence.strictness = .ok () ∧
    (type.baseType? = some .list →
      (schema.entry (element path)).checkStrictness (element path) presence.strictness = .ok ())

/-- The type is named against what is known of null. -/
def NamesAgainst (field : FieldDefinition) (type : FieldType) : Prop :=
  type.isNamed = true ∧ field.hasExplicitRule = true ∧ field.nullable ≠ type.nullable

theorem exists_error_of_namesAgainst
    (h : NamesAgainst (schema.entry (normalize (trim written))) type) :
    ∃ error, (schema.declare (.field written presence type)).2 = .error error := by
  obtain ⟨hnamed, hexplicit, hne⟩ := h
  rcases houtcome : schema.declare (.field written presence type) with ⟨after, error | _⟩
  · exact ⟨error, rfl⟩
  · obtain ⟨demands, hwalk, hmeet⟩ := declare_field_eq_ok_iff.mp houtcome
    have hdistinct := nodup_fieldWalk hwalk
    obtain ⟨-, -, resolved, hresolved, rfl⟩ := fieldWalk_eq_ok_iff.mp hwalk
    have hcheck := check_of_meetAll_eq_ok (congrArg Prod.snd hmeet) hdistinct
      (declared_mem_walk _ resolved presence.strictness)
    have hagree := (Demand.check_eq_ok_iff.mp hcheck).2
    have himplicit := FieldType.implicit_of_resolve hresolved
    have hallows := FieldType.nullable_of_resolve hresolved
    refine absurd ?_ hne
    simpa [Demand.nullable?, Demand.rule?, FieldDefinition.nullable?, himplicit, hallows, hnamed,
      hexplicit, agree?] using hagree

/-- A type that is named against what is known is refused on that account, if nothing is wrong with
it by itself nor with its presence. -/
theorem contradictsNull_of_namesAgainst
    (h : NamesAgainst (schema.entry (normalize (trim written))) type)
    (hwalk : fieldWalk written presence type = .ok demands)
    (hpresence : schema.AllowsPresence (normalize (trim written)) presence type) :
    (schema.declare (.field written presence type)).2
      = .error (.contradictsNull (normalize (trim written)) type.nullable) := by
  obtain ⟨hnamed, hexplicit, hne⟩ := h
  have hdistinct := nodup_fieldWalk hwalk
  have hmeet : schema.declare (.field written presence type) = schema.meetAll demands := by
    rw [declare, declareField_eq, hwalk]
  obtain ⟨-, -, resolved, hresolved, rfl⟩ := fieldWalk_eq_ok_iff.mp hwalk
  have himplicit := FieldType.implicit_of_resolve hresolved
  generalize normalize (trim written) = path at *
  rw [← FieldType.nullable_of_resolve hresolved] at hne ⊢
  rw [hnamed, Bool.not_true] at himplicit
  rw [hmeet, walk]
  rw [walk] at hdistinct
  refine meetAll_eq_error_of_refused hdistinct (fun demand hdemand ↦ ?_)
    (Demand.check_of_contradicts hpresence.1 himplicit hexplicit hne)
  -- Before the path itself come only the elements of a list that is named.
  split at hdemand
  · rename_i hlist
    rw [List.mem_singleton.mp hdemand]
    have hbase : type.baseType? = some .list := by
      rw [FieldType.baseType?_of_resolve hresolved]
      simpa [himplicit] using hlist
    have helement := hpresence.2 hbase
    simp only [Demand.check, helement]
    rfl
  · cases hdemand

theorem namesAgainst_of_isAboutNull {error : SchemaError}
    (h : (schema.declare (.field written presence type)).2 = .error error)
    (hnull : error.IsAboutNull) :
    NamesAgainst (schema.entry (normalize (trim written))) type := by
  rw [declare, declareField_eq] at h
  rcases hwalk : fieldWalk written presence type with fault | demands
  · rw [hwalk] at h
    obtain rfl := Except.error.inj h
    have hown := (failsOnly_fieldWalk written presence type fault hwalk).1
    obtain ⟨_, nullable, rfl⟩ := hnull
    rcases nullable <;> cases hown
  · rw [hwalk] at h
    obtain ⟨before, refused, above, hdemands, hstops⟩ :=
      exists_stopsAt_of_meetAll (Prod.ext rfl h) (nodup_fieldWalk hwalk)
    have hrefused : refused ∈ demands := by simp [hdemands]
    obtain ⟨-, -, resolved, hresolved, rfl⟩ := fieldWalk_eq_ok_iff.mp hwalk
    obtain ⟨found, hpart, himplicit, hexplicit, hne⟩ :=
      Demand.contradicts_of_isAboutNull hstops.contradicts hnull
    have hrule :
        refused.rule? = some ⟨found.type, found.nullable, found.implicit, found.check⟩ := by
      rw [Demand.rule?, hpart]
    rcases rule?_of_mem_walk hrefused hrule with ⟨hpath, hsame⟩ | ⟨kind, hsame⟩
    · obtain ⟨-, hnullable, hfound, -⟩ := Rule.mk.inj hsame
      rw [FieldType.nullable_of_resolve hresolved] at hnullable
      rw [FieldType.implicit_of_resolve hresolved, himplicit, Bool.false_eq,
        Bool.not_eq_false'] at hfound
      exact ⟨hfound, hpath ▸ hexplicit, hpath ▸ hnullable ▸ hne⟩
    · rw [(Rule.mk.inj hsame).2.2.1] at himplicit
      cases himplicit

/-! ## Where null is in order -/

/-- Null is in order at a path that was given these types: the types that are named agree with what
is known, and so do the rules that come from them; and a further type that is named is refused on
account of null if it contradicts one of them, and not otherwise. -/
structure NullsInOrder (schema : Schema) (path : String) (types : List FieldType) : Prop where
  named : ∀ type ∈ types, type.isNamed = true → type.nullable = (schema.entry path).nullable
  rules : ∀ rule ∈ (schema.entry path).rules, rule.implicit = false →
    rule.nullable = (schema.entry path).nullable
  accepts : ∀ written presence type, normalize (trim written) = path → type.isNamed = true →
    (∀ earlier ∈ types, earlier.isNamed = true → earlier.nullable = type.nullable) →
    ∀ error, (schema.declare (.field written presence type)).2 = .error error →
      ¬error.IsAboutNull
  /-- What is wrong with the type by itself, or with its presence, is reported before. -/
  refuses : ∀ written presence type, normalize (trim written) = path → type.isNamed = true →
    (∃ earlier ∈ types, earlier.isNamed = true ∧ earlier.nullable ≠ type.nullable) →
    (∃ error, (schema.declare (.field written presence type)).2 = .error error) ∧
      ∀ demands, fieldWalk written presence type = .ok demands →
        schema.AllowsPresence path presence type →
        (schema.declare (.field written presence type)).2
          = .error (.contradictsNull path type.nullable)

/-- **Null is in order at a path exactly where null is not allowed without a type against a type
that is named.** -/
theorem nullsInOrder_iff (h : compile declarations = .ok schema) (path : String) :
    schema.NullsInOrder path (typesFor path declarations) ↔
      NullsAgree (typesFor path declarations) := by
  have haccount : NullAccount (typesFor path declarations) (schema.entry path) := by
    have hstart : NullAccount [] (({} : Schema).entry path) := .empty
    simpa using nullAccount_declareAll hstart h
  constructor
  · intro horder
    exact haccount.nullable_eq_iff.mp horder.named
  · intro hagree
    have hnamed := haccount.nullable_eq_iff.mpr hagree
    constructor
    · exact hnamed
    · intro rule hrule hexplicit
      obtain ⟨type, htype, hisnamed, hsame⟩ := haccount.rule rule hrule hexplicit
      rw [← hsame, hnamed type htype hisnamed]
    · rintro written presence type rfl hisnamed hall error herror hnull
      obtain ⟨-, hexplicit, hne⟩ := namesAgainst_of_isAboutNull herror hnull
      obtain ⟨earlier, hearlier, hname⟩ := haccount.named.mp hexplicit
      exact hne ((hnamed earlier hearlier hname).symm.trans (hall earlier hearlier hname))
    · rintro written presence type rfl hisnamed ⟨earlier, hearlier, hname, hne⟩
      have hagainst : NamesAgainst (schema.entry (normalize (trim written))) type :=
        ⟨hisnamed, haccount.named.mpr ⟨earlier, hearlier, hname⟩,
          hnamed earlier hearlier hname ▸ hne⟩
      exact ⟨exists_error_of_namesAgainst hagainst, fun demands hwalk hpresence ↦
        contradictsNull_of_namesAgainst hagainst hwalk hpresence⟩

/-- A field that was declared a string, and without a type in between, is refused as a number that
may be null. As an integer it is refused for its presence only. -/
theorem nullsInOrder_iff_string :
    let string := Declaration.field "a" .required (.named "string")
    let silent := Declaration.field " a" .required .untyped
    ∃ schema, compile [string, silent] = .ok schema ∧
      schema.NullsInOrder "a" [.named "string", .untyped] ∧
      (schema.declare (.field "a" .required (.named "number?"))).2
        = .error (.alreadyNonNullable "a") ∧
      (schema.declare (.field "a" .optional (.named "integer"))).2
        = .error (.alreadyRequired "a") := by
  intro string silent
  have hcompile : ∃ schema, compile [string, silent] = .ok schema := ⟨_, rfl⟩
  obtain ⟨schema, hschema⟩ := hcompile
  have horder : schema.NullsInOrder "a" [.named "string", .untyped] := by
    refine (nullsInOrder_iff hschema "a").mpr fun other hother hunnamed hallowed ↦ ?_
    have hnever : ∀ type ∈ typesFor "a" [string, silent], type.nullable = false := by decide
    rw [hnever other hother] at hallowed
    cases hallowed
  refine ⟨schema, hschema, horder, ?_, ?_⟩
  · obtain rfl := Except.ok.inj hschema
    exact ((horder.refuses "a" .required (.named "number?") rfl rfl
      ⟨.named "string", by simp, rfl, by decide⟩).2 _ rfl ⟨rfl, fun h ↦ nomatch h⟩)
  · obtain rfl := Except.ok.inj hschema
    rfl

/-- Where null is allowed without a type in between, a string may become a number that may be null,
and the rules of the two disagree. Where it is allowed before, a string may not become an integer.
-/
theorem contradicting_types_accepted :
    let string := Declaration.field "a" .required (.named "string")
    let silent := Declaration.field "a" .required FieldType.untyped.allowNull
    let number := Declaration.field "a" .required (.named "number?")
    let integer := Declaration.field "a" .required (.named "integer")
    (∃ schema, compile [string, silent, number] = .ok schema ∧
      ∃ rule ∈ (schema.entry "a").rules, ∃ other ∈ (schema.entry "a").rules,
        rule.implicit = false ∧ other.implicit = false ∧ rule.nullable ≠ other.nullable) ∧
    ∃ schema, compile [silent, string] = .ok schema ∧
      (schema.declare integer).2 = .error (.alreadyNullable "a") := by
  intro string silent number integer
  refine ⟨⟨_, rfl, ?_⟩, _, rfl, rfl⟩
  exact ⟨_, List.mem_cons_self, _, List.mem_of_getLast? rfl, rfl, rfl, by decide⟩

end Schema

end DocumentSchema
