import DocumentSchema.Proofs.Index.Members
import DocumentSchema.Proofs.Validation.Values

/-!
# Findings about unknown members

Of every object that known paths lead to, a member is unknown if no known path goes on from there by
its key. Such a member is reported, unless its key cannot be written in a path: with the dots and
brackets of the key, the text of its template may be that of a known path which goes another way.
The member is then taken for a value of that path, and nothing says that nobody declared it.
-/

namespace DocumentSchema

open DocumentSchema.Path

namespace Schema

variable {schema : Schema} {members context around : Members} {path : String}
  {location : Location} {key : String} {value : Json} {findings : List Message}

theorem reported_of_mem_extraFields (hextra : schema.ignoreExtraFields = false)
    (hok : schema.validate (.object members) context = .ok findings) {place : String}
    (hplace : place ∈ (Index.ofDocument schema.knows (.object members)).extraFields) :
    ∃ finding ∈ findings, finding.kind = Message.Kind.extraField ∧ finding.field = place := by
  rw [validate] at hok
  cases hvalues : schema.checkValues (Index.ofDocument schema.knows (.object members)) with
  | error error => simp only [hvalues] at hok; cases hok
  | ok values =>
    simp only [hvalues] at hok
    obtain rfl := Except.ok.inj hok
    have hnoted : Message.new Message.Kind.extraField place ∈
        schema.reportExtra (Index.ofDocument schema.knows (.object members)) := by
      rw [reportExtra, hextra, if_neg (by decide)]
      exact List.mem_map_of_mem hplace
    refine ⟨_, List.mem_map_of_mem (List.mem_append_right _ hnoted), ?_, ?_⟩
    · rw [Message.kind_extendContext, Message.kind_new]
    · rw [Message.field_extendContext]
      rfl

/-- **A member that no known path leads to is reported**, or its key cannot be written in a path and
it is taken for a value of the known path that its template is written like. -/
theorem unknown_member_reported (h : schema.Reachable) (hextra : schema.ignoreExtraFields = false)
    (hpath : path = root ∨ path ∈ schema.paths)
    (hlocation : location ∈ (Json.object members).select (steps path))
    (hvalue : location.value = .object around) (hmember : (key, value) ∈ around)
    (hunknown : ∀ known ∈ schema.paths, steps known ≠ steps path ++ [.member key])
    (hok : schema.validate (.object members) context = .ok findings) :
    (∃ finding ∈ findings, finding.kind = Message.Kind.extraField ∧
      finding.field = child location.path key) ∨
    ¬ IsIdentifier key ∧ child path key ∈ schema.paths ∧
      ⟨child location.path key, value, some .object⟩ ∈
        (Index.ofDocument schema.knows (.object members)).entries (child path key) := by
  have htemplate : IsTemplate path := by
    rcases hpath with rfl | hpath
    · exact .root
    · exact h.grounded.isTemplate hpath
  have hfound := Index.listed_or_extra h.grounded.closed htemplate (hpath.imp_right knows_iff.mpr)
    hlocation hvalue hmember
  split at hfound
  · rename_i hknown
    refine .inr ⟨fun hkey ↦ ?_, knows_iff.mp hknown, hfound⟩
    -- A key that can be written is the last step of the template.
    exact hunknown _ (knows_iff.mp hknown) (steps_child path hkey)
  · exact .inl (reported_of_mem_extraFields hextra hok hfound)

/-- A member of an element of a list. There is a dot in its key, but no path that is written so. -/
theorem unknown_member_reported_element :
    let schema := (({} : Schema).declare (.field "a[].b" .required .untyped)).1
    let element : Members := [("b", .null), ("c.d", .bool true)]
    ∃ findings, schema.validate (.object [("a", .array [.object element])]) [] = .ok findings ∧
      ∃ finding ∈ findings, finding.kind = Message.Kind.extraField ∧
        finding.field = "a[0].c.d" := by
  intro schema element
  have hok : ∃ findings,
      schema.validate (.object [("a", .array [.object element])]) [] = .ok findings := ⟨_, rfl⟩
  obtain ⟨findings, hfindings⟩ := hok
  have hlocation : ⟨[.member "a", .element 0], .object element⟩ ∈
      (Json.object [("a", .array [.object element])]).select (steps "a[]") :=
    List.mem_singleton_self _
  have hmember : ("c.d", .bool true) ∈ element := by simp [element]
  have hreported := unknown_member_reported (.declare _ .empty : schema.Reachable) rfl
    (.inr (by decide)) hlocation rfl hmember (by decide) hfindings
  refine ⟨findings, hfindings, hreported.resolve_right ?_⟩
  rintro ⟨-, hknown, -⟩
  exact absurd hknown (by decide)

/-- Members of the root that nobody declared, and that nothing is said about. The keys are written
like a nested path, like the elements of a list and like the root. -/
theorem not_unknown_member_reported :
    let declarations : List Declaration := [.field "a" .optional (.named "object"),
      .field "a.b" .required (.named "integer"), .field "l[]" .optional (.named "integer")]
    ∃ schema, compile declarations = .ok schema ∧ schema.ignoreExtraFields = false ∧
      ∀ member ∈ [("a.b", .ofNat 1), ("l[]", .ofNat 1), (".", Json.object [])],
        (∀ known ∈ schema.paths, steps known ≠ steps root ++ [.member member.1]) ∧
        schema.validate (.object [member]) [] = .ok [] := by
  intro declarations
  refine ⟨_, rfl, rfl, ?_⟩
  simp only [List.forall_mem_cons, List.not_mem_nil, false_implies, implies_true, and_true]
  exact ⟨⟨by decide, rfl⟩, ⟨by decide, rfl⟩, by decide, rfl⟩

end Schema

end DocumentSchema
