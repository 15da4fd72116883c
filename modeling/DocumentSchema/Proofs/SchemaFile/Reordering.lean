import DocumentSchema.Proofs.SchemaFile.Demands
import DocumentSchema.Proofs.Validation.Order

/-!
# Reordering a schema file

The entries of a schema file may be put in another order: the file compiles as before, to a schema
that is the same up to order, and every document has the same findings up to order. The unknown
members are found in the very same order, which is that of the document.

Two things stand in the way, and both are excluded. Of two list types that are named for one place
the later replaces the earlier; and a custom check that fails hides what would be found after it.
-/

namespace DocumentSchema

namespace CustomChecks

def NeverFail (checks : CustomChecks) : Prop :=
  ∀ name function, checks.get? name = some function →
    ∀ field value params, ∃ finding, function field value params = .ok finding

/-- No custom check answers a finding of a kind. -/
def NeverAnswer (checks : CustomChecks) (kind : String) : Prop :=
  ∀ name function, checks.get? name = some function →
    ∀ field value params message, function field value params = .ok (some message) →
      message.kind ≠ kind

end CustomChecks

namespace SchemaFile

variable {file other : SchemaFile} {checks : CustomChecks} {schema : Schema} {rule : Rule}

/-! ## Rules of a file -/

theorem Supplied.total (h : Supplied checks rule) (hchecks : checks.NeverFail) :
    rule.check.Total := by
  rcases h with hbuiltin | ⟨name, function, params, hname, hcheck⟩
  · exact Check.total_of_ne_custom hbuiltin
  · intro path value
    obtain ⟨finding, hfinding⟩ := hchecks name function hname path value params
    exact ⟨finding, by rw [hcheck, Check.run, hfinding, Except.mapError]⟩

theorem Supplied.kind_ne_extraField (h : Supplied checks rule)
    (hchecks : checks.NeverAnswer Message.Kind.extraField) {path : String} {value : Json}
    {finding : Message} (hrun : rule.check.run path value = .ok (some finding)) :
    finding.kind ≠ Message.Kind.extraField := by
  rcases h with hbuiltin | ⟨name, function, params, hname, hcheck⟩
  · intro hkind
    exact absurd (hkind ▸ (Check.isFinding_of_run hbuiltin hrun).kind_mem) (by decide)
  · rw [hcheck, Check.run] at hrun
    cases hanswer : function path value params with
    | error error => rw [hanswer] at hrun; cases hrun
    | ok answer =>
      rw [hanswer] at hrun
      obtain rfl := Except.ok.inj hrun
      exact hchecks name function hname path value params finding hanswer

/-! ## Compiling -/

theorem tidy_start (ignoreExtraFields : Bool) : ({ ignoreExtraFields } : Schema).Tidy :=
  fun _ _ ↦ rfl

theorem everyRule_start (described : Rule → Prop) (ignoreExtraFields : Bool) :
    Schema.EveryRule described { ignoreExtraFields } := by
  intro path rule hrule
  cases hrule

theorem everyRule_supplied (h : file.compile checks = .ok schema) :
    Schema.EveryRule (Supplied checks) schema := by
  obtain ⟨-, hmeet⟩ := compile_eq_ok_iff.mp h
  rw [← show _ = schema from congrArg Prod.fst hmeet]
  refine (everyRule_start _ _).meetAll fun demand hdemand rule hrule ↦ ?_
  obtain ⟨entry, -, hdemand⟩ := List.mem_flatMap.mp hdemand
  exact Entry.supplied_of_mem_demands hdemand hrule

theorem regular_of_compile (hchecks : checks.NeverFail) (h : file.compile checks = .ok schema) :
    schema.Regular := by
  have htotal := everyRule_supplied h
  obtain ⟨-, hmeet⟩ := compile_eq_ok_iff.mp h
  have hschema := congrArg Prod.fst hmeet
  refine ⟨?_, ?_, ?_, fun path rule hrule ↦ (htotal path rule hrule).total hchecks⟩
  · rw [← show _ = schema from hschema]
    exact Schema.nodup_paths_meetAll List.nodup_nil
  · rw [← show _ = schema from hschema]
    exact (tidy_start _).meetAll (plain_of_mem _)
  · rw [← show _ = schema from hschema]
    refine (everyRule_start _ _).meetAll fun demand hdemand rule hrule ↦ ?_
    exact (plain_of_mem _ demand hdemand rule hrule).1

/-- **Entries in another order compile to the same schema**, up to order. -/
theorem compile_perm (hextra : other.ignoreExtraFields = file.ignoreExtraFields)
    (hfields : file.fields.Perm other.fields) (hlists : ListsDistinct file.fields)
    (h : file.compile checks = .ok schema) :
    ∃ result, other.compile checks = .ok result ∧ schema.Alike result := by
  obtain ⟨hwalks, hmeet⟩ := compile_eq_ok_iff.mp h
  obtain ⟨hok, halike⟩ := Schema.meetAll_perm (hfields.flatMap_right (Entry.demands checks))
    (tidy_start file.ignoreExtraFields) List.nodup_nil (plain_of_mem _)
    (fun first hfirst second hsecond ↦ compatible_of_mem hlists hfirst hsecond)
    (congrArg Prod.snd hmeet)
  refine ⟨_, compile_eq_ok_iff.mpr ⟨fun entry hentry ↦ ?_, ?_⟩, hmeet ▸ halike⟩
  · exact hwalks entry (hfields.mem_iff.mpr hentry)
  · rw [hextra]
    exact Prod.ext rfl hok

/-! ## Validating -/

/-- **Reordering a schema file only reorders findings.** The entries of a file in another order
compile as well, and every document has the same findings up to order. Those about unknown members
come last in both, in the same order, and are the only ones of their kind if no custom check answers
findings of that kind. -/
theorem validate_reordered (hextra : other.ignoreExtraFields = file.ignoreExtraFields)
    (hfields : file.fields.Perm other.fields) (hlists : ListsDistinct file.fields)
    (hchecks : checks.NeverFail) (hcompile : file.compile checks = .ok schema) :
    ∃ result, other.compile checks = .ok result ∧ ∀ members context : Members,
      ∃ first second extra : List Message, first.Perm second ∧
        schema.validate (.object members) context = .ok (first ++ extra) ∧
        result.validate (.object members) context = .ok (second ++ extra) ∧
        extra = (schema.reportExtra (Index.ofDocument schema.knows (.object members))).map
          (·.extendContext context) ∧
        (checks.NeverAnswer Message.Kind.extraField →
          ∀ finding ∈ first, finding.kind ≠ Message.Kind.extraField) := by
  obtain ⟨result, hresult, halike⟩ := compile_perm hextra hfields hlists hcompile
  have hschema := regular_of_compile hchecks hcompile
  have hother := regular_of_compile hchecks hresult
  refine ⟨result, hresult, fun members context ↦ ?_⟩
  -- The two schemas know the same paths, so one index serves both.
  let index := Index.ofDocument schema.knows (.object members)
  have hindex : Index.ofDocument result.knows (.object members) = index := by rw [← halike.knows]
  refine ⟨_, _, _, (halike.knownFindings_perm hschema hother index).map (·.extendContext context),
    ?_, ?_, rfl, ?_⟩
  · rw [hschema.validate_eq, List.map_append]
  · rw [hother.validate_eq, List.map_append, hindex, ← halike.reportExtra_eq]
  · intro hkinds finding hfinding
    obtain ⟨known, hknown, rfl⟩ := List.mem_map.mp hfinding
    -- The context adds to a finding and leaves its kind alone.
    rw [Message.kind_extendContext]
    rcases Schema.kind_of_mem_knownFindings hschema.nodup hknown with
      hnull | hmissing | ⟨path, rule, hrule, place, value, hrun⟩
    · rw [hnull]
      decide
    · rw [hmissing]
      decide
    · exact (everyRule_supplied hcompile path rule hrule).kind_ne_extraField hkinds hrun

/-! ## Instances -/

def Entry.typed (path type : String) (params : Params) : Entry :=
  { path, type := some type, params }

theorem neverFail_empty : ({} : CustomChecks).NeverFail := by
  intro name function hname
  cases hname

/-- A member and the object around it, which the member needs before it is named. -/
theorem validate_reordered_object :
    ∃ schema result,
      compile { fields := [.typed "a.b" "integer" [], .typed "a" "object?" []] } {} = .ok schema ∧
      compile { fields := [.typed "a" "object?" [], .typed "a.b" "integer" []] } {} = .ok result ∧
      ∃ first second extra : List Message, first.Perm second ∧
        schema.validate (.object [("a", .object [("b", .bool true)]), ("c", .null)]) []
          = .ok (first ++ extra) ∧
        result.validate (.object [("a", .object [("b", .bool true)]), ("c", .null)]) []
          = .ok (second ++ extra) := by
  have hcompile :
      compile { fields := [.typed "a.b" "integer" [], .typed "a" "object?" []] } {}
        = .ok { fields := [("a.b", ⟨.required, false, [⟨.integer, false, false, .integer {}⟩]⟩),
          ("a", ⟨.required, true, [⟨.object, true, false, .object⟩]⟩),
          (".", ⟨.required, false, [⟨.object, false, true, .object⟩]⟩)] } := rfl
  have hswap : [Entry.typed "a.b" "integer" [], .typed "a" "object?" []].Perm
      [.typed "a" "object?" [], .typed "a.b" "integer" []] := .swap ..
  have hlists : ListsDistinct [.typed "a.b" "integer" [], .typed "a" "object?" []] := by decide
  let other : SchemaFile := { fields := [.typed "a" "object?" [], .typed "a.b" "integer" []] }
  have hextra : other.ignoreExtraFields = false := rfl
  obtain ⟨result, hresult, hvalidate⟩ :=
    validate_reordered hextra hswap hlists neverFail_empty hcompile
  obtain ⟨first, second, extra, hperm, hfirst, hsecond, -⟩ := hvalidate _ []
  exact ⟨_, result, hcompile, hresult, first, second, extra, hperm, hfirst, hsecond⟩

/-- The schema that knows of the root that it is a list within limits. -/
def rootList (limits : ListLimits) : Schema :=
  { fields := [(".[]", ⟨.required, false, []⟩),
      (".", ⟨.required, false, [⟨.list, false, false, .list limits⟩]⟩)] }

/-- A custom check that answers the kind of finding for unknown members. -/
def flag : CustomCheck := fun field _ _ ↦ .ok (some (Message.new Message.Kind.extraField field))

def flags : CustomChecks := ({} : CustomChecks).register "flag" flag

/-- A declaration of a path with that check. -/
def flagged (path : String) : Entry := { path, type := some "custom", validator := some "flag" }

theorem neverFail_flags : flags.NeverFail := by
  intro name function hname field value params
  rw [flags, CustomChecks.get?_register] at hname
  split at hname
  · rw [← Option.some.inj hname]
    exact ⟨_, rfl⟩
  · cases hname

/-- The two spellings of the root are two texts, but one place: of two list types that are named for
them the later replaces the earlier, and a member whose key is the root as it is spelled shows the
difference. And custom checks may answer findings of the kind for unknown members, which come in
the order of the file. -/
theorem not_validate_reordered :
    (trim "" ≠ trim "." ∧ ({} : CustomChecks).NeverFail ∧ ∃ schema result findings others,
      compile { fields :=
        [.typed "" "list" [("min", .ofNat 2)], .typed "." "list" [("max", .ofNat 0)]] } {}
          = .ok schema ∧
      compile { fields :=
        [.typed "." "list" [("max", .ofNat 0)], .typed "" "list" [("min", .ofNat 2)]] } {}
          = .ok result ∧
      schema.validate (.object [(".", .array [.bool true])]) [] = .ok findings ∧
      result.validate (.object [(".", .array [.bool true])]) [] = .ok others ∧
      ¬ findings.Perm others) ∧
    (flags.NeverFail ∧ ListsDistinct [flagged "a", flagged "b"] ∧
      ∃ schema result findings others,
        compile { fields := [flagged "a", flagged "b"] } flags = .ok schema ∧
        compile { fields := [flagged "b", flagged "a"] } flags = .ok result ∧
        schema.validate (.object [("a", .bool true), ("b", .bool true)]) [] = .ok findings ∧
        result.validate (.object [("a", .bool true), ("b", .bool true)]) [] = .ok others ∧
        findings.filter (·.kind = Message.Kind.extraField)
          ≠ others.filter (·.kind = Message.Kind.extraField)) := by
  constructor
  · refine ⟨by decide, neverFail_empty, rootList ⟨none, some 0⟩, rootList ⟨some 2, none⟩, _, _, rfl,
      rfl, rfl, rfl, ?_⟩
    intro hperm
    exact absurd (hperm.map (·.kind)) (by decide)
  · refine ⟨neverFail_flags, by decide, _, _, _, _, rfl, rfl, rfl, rfl, ?_⟩
    intro heq
    exact absurd (congrArg (List.map (·.field)) heq) (by decide)

end SchemaFile

end DocumentSchema
