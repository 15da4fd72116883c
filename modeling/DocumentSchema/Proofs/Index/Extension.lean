import DocumentSchema.Proofs.Index.Account
import DocumentSchema.Proofs.Validation.Values

/-!
# More known paths

A schema that knows more paths lets the walk descend into places that it passed over before, and a
document may have any text as a key, so the text of a place down there may be that of a path known
long before. That this lists nothing new under a path known before is a fact about the text of
paths: if the text of a known path is that of a place one step below another place, by whatever key,
then the text of the other place is a known path too.

For the step to an element this is how known paths are closed. For the step to a member the key may
hold dots itself; but where a known path has a dot, what stands before the dot is a path above it.
-/

namespace DocumentSchema

open DocumentSchema.Path

namespace Index

variable {known more : String → Bool}

/-! ## Above a known text -/

theorem exists_of_append_eq {front back before after : List Char} (hback : '.' ∉ back)
    (h : front ++ back = before ++ '.' :: after) : ∃ rest, front = before ++ '.' :: rest := by
  rcases List.append_eq_append_iff.mp h with ⟨rest, -, hrest⟩ | ⟨rest, hfront, hrest⟩
  · exact absurd (hrest ▸ List.mem_append_right _ List.mem_cons_self) hback
  · rcases rest with _ | ⟨first, rest⟩
    · rw [List.nil_append] at hrest
      exact absurd (hrest ▸ List.mem_cons_self) hback
    · obtain ⟨rfl, -⟩ := List.cons.inj hrest
      exact ⟨rest, hfront⟩

/-- **What stands before a dot of a known path is a known path**, unless it is a spelling of the
root. The induction goes up the path; only a step to a member of another place than the root writes
a dot. -/
theorem Closed.known_of_dot (hclosed : Closed known) {path : String} (hpath : IsTemplate path)
    (hknown : known path = true) {before : String} (hroot : isRoot before = false)
    {after : List Char} (hdot : path.toList = before.toList ++ '.' :: after) :
    known before = true := by
  induction hpath generalizing after with
  | root =>
    rw [show root.toList = ['.'] from by decide] at hdot
    obtain ⟨hempty, -⟩ | ⟨hcons, -⟩ := List.append_eq_singleton_iff.mp hdot.symm
    · rw [String.toList_eq_nil_iff.mp hempty] at hroot
      cases hroot
    · have hlength := congrArg List.length hdot
      simp [hcons] at hlength
  | @down parent step hparent hstep ih =>
    have hparentKnown := hclosed hparent hstep hknown
    cases step with
    | element _ =>
      rw [down, toList_element] at hdot
      obtain ⟨rest, habove⟩ := exists_of_append_eq (by decide) hdot
      exact ih hparentKnown habove
    | member key =>
      have hkey : '.' ∉ key.toList := IsIdentifier.dot_notMem hstep
      by_cases hparentRoot : isRoot parent = true
      · rw [down, child_of_isRoot hparentRoot] at hdot
        exact absurd (hdot ▸ List.mem_append_right _ List.mem_cons_self) hkey
      · rw [Bool.not_eq_true] at hparentRoot
        rw [down, toList_child hparentRoot, List.append_cons] at hdot
        obtain ⟨rest, habove⟩ := exists_of_append_eq hkey hdot
        -- The dot is the one that the step writes, or one of the path above.
        rcases List.eq_nil_or_concat rest with rfl | ⟨rest, last, rfl⟩
        · have hsame := (List.append_inj' habove rfl).1
          rwa [← String.toList_inj.mp hsame]
        · rw [List.concat_eq_append, ← List.cons_append, ← List.append_assoc] at habove
          exact ih hparentKnown (List.append_inj' habove rfl).1

/-- **The text above a known text is known**, by whatever step the one is below the other. Nothing
is asked of the key. -/
theorem Closed.known_above (hclosed : Closed known)
    (htemplates : ∀ {path : String}, known path = true → IsTemplate path) {parent : String}
    (hparent : parent ≠ "") {step : TemplateStep} (hknown : known (down parent step) = true) :
    known parent = true := by
  have hpath := htemplates hknown
  cases step with
  | element _ =>
    have hstep : (.element () : TemplateStep).IsWritable := trivial
    exact hclosed hpath.of_element hstep hknown
  | member key =>
    by_cases hroot : isRoot parent = true
    · rw [((isRoot_iff parent).mp hroot).resolve_left hparent]
      exact hclosed.known_root hpath hknown
    · rw [Bool.not_eq_true] at hroot
      exact hclosed.known_of_dot hpath hknown hroot (toList_child hroot key)

/-! ## What is reached -/

theorem reaches_of_more (hclosed : Closed known)
    (htemplates : ∀ {path : String}, known path = true → IsTemplate path)
    (hempty : more "" = false) {steps : List LocationStep}
    (hknown : known (template (steps.map Step.general)) = true)
    (hreaches : reaches more root steps = true) : reaches known root steps = true := by
  induction steps using List.reverseRecOn with
  | nil => rfl
  | append_singleton above last ih =>
    rw [reaches_append_singleton, Bool.and_eq_true] at hreaches ⊢
    refine ⟨?_, hknown⟩
    rw [List.map_append, List.map_singleton, template_append_singleton] at hknown
    by_cases hnil : above = []
    · rw [hnil, reaches]
    · -- The place above is reached with more known paths, so its text is not empty.
      have habove : more (template (above.map Step.general)) = true :=
        reaches_iff.mp hreaches.1 above List.prefix_rfl hnil
      have hne : template (above.map Step.general) ≠ "" := by
        intro hcontra
        rw [hcontra, hempty] at habove
        cases habove
      exact ih (hclosed.known_above htemplates hne hknown) hreaches.1

theorem reaches_iff_of_more (hclosed : Closed known)
    (htemplates : ∀ {path : String}, known path = true → IsTemplate path)
    (hempty : more "" = false) (hmore : ∀ {path : String}, known path = true → more path = true)
    {steps : List LocationStep} (hknown : known (template (steps.map Step.general)) = true) :
    reaches known root steps = true ↔ reaches more root steps = true := by
  constructor
  · intro hreaches
    rw [reaches_iff] at hreaches ⊢
    exact fun above hle hne ↦ hmore (hreaches above hle hne)
  · exact reaches_of_more hclosed htemplates hempty hknown

/-- **More known templates list nothing else under a template that was known.** -/
theorem entries_ofDocument_more (hclosed : Closed known)
    (htemplates : ∀ {path : String}, known path = true → IsTemplate path)
    (hempty : more "" = false) (hmore : ∀ {path : String}, known path = true → more path = true)
    {path : String} (hknown : known path = true) (document : Json) :
    (ofDocument known document).entries path = (ofDocument more document).entries path := by
  have hroot : known root = true := hclosed.known_root (htemplates hknown) hknown
  cases hobject : document.isObject with
  | false =>
    rw [ofDocument_of_not_isObject hobject, ofDocument_of_not_isObject hobject, if_pos hroot,
      if_pos (hmore hroot)]
  | true =>
    obtain ⟨members, rfl⟩ := Json.isObject_iff.mp hobject
    rw [entries_ofDocument_object, entries_ofDocument_object, hroot, hmore hroot]
    congr 2
    refine List.filter_congr fun location _ ↦ ?_
    simp only [decide_eq_decide]
    refine and_congr_left fun htemplate ↦ ?_
    rw [← htemplate] at hknown
    exact reaches_iff_of_more hclosed htemplates hempty hmore hknown

end Index

namespace Schema

variable {first second : Schema}

theorem Reachable.knows_empty (h : first.Reachable) : first.knows "" = false := by
  rw [Bool.eq_false_iff]
  intro hknows
  exact (h.grounded.isTemplate (knows_iff.mp hknows)).ne_empty rfl

/-- **A schema that knows more lists the same under every path that another knows.** Both may be
what declarations left of which some failed, and the document may have any keys. -/
theorem entries_of_extension (hfirst : first.Reachable) (hsecond : second.Reachable)
    (hpaths : ∀ path ∈ first.paths, path ∈ second.paths) (document : Json) {path : String}
    (hpath : path ∈ first.paths) :
    (Index.ofDocument first.knows document).entries path
      = (Index.ofDocument second.knows document).entries path :=
  Index.entries_ofDocument_more hfirst.grounded.closed
    (fun hknown ↦ hfirst.grounded.isTemplate (knows_iff.mp hknown)) hsecond.knows_empty
    (fun hknown ↦ knows_iff.mpr (hpaths _ (knows_iff.mp hknown))) (knows_iff.mpr hpath) document

/-- Keys that hold a dot, that are the dot of the root, and that only the second schema knows. Its
last declaration fails halfway, and leaves one more path known. -/
theorem entries_of_extension_dots :
    let first := (({} : Schema).declare (.field "a.b" .required (.named "integer"))).1
    let larger := (first.declare (.field "c.d" .optional (.named "any"))).1
    let failing := Declaration.field "c.d[]" .required .untyped
    let second := (larger.declare failing).1
    let document := Json.object [("a", .object [("b", .bool true)]), ("a.b", .null),
      (".", .object [("a.b", .bool false)]), ("c", .object [("d", .null)])]
    (larger.declare failing).2 = .error (.alreadyOptional "c.d") ∧
      second.knows "c.d[]" = true ∧ (∀ path ∈ first.paths, path ∈ second.paths) ∧
      (Index.ofDocument second.knows document).entries "a.b"
        = [⟨"a.b", .bool true, some .object⟩, ⟨"a.b", .null, some .object⟩,
            ⟨"a.b", .bool false, some .object⟩] := by
  intro first larger failing second document
  have hpaths : ∀ path ∈ first.paths, path ∈ second.paths := by decide
  have hfirst : first.Reachable := .declare _ .empty
  refine ⟨rfl, rfl, hpaths, ?_⟩
  rw [← entries_of_extension hfirst (.declare _ (.declare _ hfirst)) hpaths document (by decide)]
  rfl

end Schema

end DocumentSchema
