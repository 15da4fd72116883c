import DocumentSchema.Proofs.Outcomes
import DocumentSchema.Proofs.Path.Template
import Mathlib.Data.List.Basic
import Mathlib.Data.List.Induction

/-!
# The grammar of paths

A path other than the root is a sequence of segments joined by dots, where a segment is an
identifier with markers after it. `Path.written` writes segments in this way, as one text. The rest
of the library never does that: it goes down from the root, by a key and then by the elements of a
list as often as there are markers, and `Path.built` does the same for a sequence of segments.

Both write one text, and the reader accepts exactly the texts that they write and gives back the
segments. So a path has one sequence of segments, whichever way it came about.

## Templates

Templates are made by steps, and a marker is a step of its own. Every path that the grammar reads is
a template, since it is built by going down. The converse fails at one place: the elements of the
root are a template, but the marker alone, or after the dot of the root, is no segment. So a
template is a path of the grammar if its first step is a key.
-/

namespace DocumentSchema.Path

/-! ## Markers -/

def markers (count : Nat) : List Char := (List.replicate count ['[', ']']).flatten

theorem markers_succ (count : Nat) : markers (count + 1) = markers count ++ ['[', ']'] := by
  rw [markers, List.replicate_succ', List.flatten_append]
  rfl

private theorem reverse_eq_of_dropMarkers (list : List Char) :
    list.reverse = (dropMarkers list).1.reverse ++ markers (dropMarkers list).2 := by
  fun_induction dropMarkers list with
  | case1 rest key count hrest ih =>
    rw [hrest] at ih
    rw [markers_succ, ← List.append_assoc, ← ih]
    simp
  | case2 key => simp [markers]

/-- A text is what is left of it without the markers at its end, and the markers. -/
theorem eq_append_markers (text : List Char) :
    text = (stripMarkers text).1 ++ markers (stripMarkers text).2 := by
  have h := reverse_eq_of_dropMarkers text.reverse
  rwa [List.reverse_reverse] at h

theorem dot_notMem_markers (count : Nat) : '.' ∉ markers count := by
  intro hdot
  obtain ⟨marker, hmarker, hmem⟩ := List.mem_flatten.mp hdot
  rw [List.eq_of_mem_replicate hmarker] at hmem
  exact absurd hmem (by decide)

private theorem dropMarkers_reverse_append {key : List Char} (h : ']' ∉ key) (count : Nat) :
    dropMarkers ((markers count).reverse ++ key) = (key, count) := by
  induction count with
  | zero =>
    have hmarkers : markers 0 = [] := rfl
    rw [hmarkers, List.reverse_nil, List.nil_append]
    unfold dropMarkers
    split
    · simp at h
    · rfl
  | succ count ih =>
    have hmarkers : (markers (count + 1)).reverse ++ key
        = ']' :: '[' :: ((markers count).reverse ++ key) := by
      rw [markers_succ, List.reverse_append]
      rfl
    rw [hmarkers, dropMarkers, ih]

theorem stripMarkers_append_markers {key : List Char} (h : ']' ∉ key) (count : Nat) :
    stripMarkers (key ++ markers count) = (key, count) := by
  have hkey : ']' ∉ key.reverse := by simpa using h
  rw [stripMarkers, List.reverse_append, dropMarkers_reverse_append hkey]
  simp

/-! ## Segments -/

def Segment.text (segment : Segment) : String :=
  segment.key ++ String.ofList (markers segment.listDepth)

theorem toList_text (segment : Segment) :
    segment.text.toList = segment.key.toList ++ markers segment.listDepth := by
  rw [Segment.text, String.toList_append, String.toList_ofList]

theorem dot_notMem_text {segment : Segment} (h : IsIdentifier segment.key) :
    '.' ∉ segment.text.toList := by
  rw [toList_text, List.mem_append, not_or]
  exact ⟨h.dot_notMem, dot_notMem_markers _⟩

private theorem isIdentifier_of_segment {raw : List Char} {parsed : Segment}
    (h : segment raw = .ok parsed) (hdot : '.' ∉ raw) :
    raw = parsed.text.toList ∧ IsIdentifier parsed.key := by
  have hraw := eq_append_markers raw
  rw [toList_text]
  rw [segment] at h
  -- Only the two parts of the raw text matter from here on, not how they were found.
  generalize stripMarkers raw = stripped at h hraw
  obtain ⟨key, depth⟩ := stripped
  simp only at h hraw
  split at h
  · cases h
  · rename_i hempty
    split at h
    · cases h
    · rename_i hbracket
      obtain rfl := Except.ok.inj h
      rw [Bool.or_eq_true, not_or, List.contains_iff_mem, List.contains_iff_mem] at hbracket
      simp only [String.toList_ofList]
      refine ⟨hraw, ?_, ?_⟩
      · intro hnil
        have hlist := congrArg String.toList hnil
        rw [String.toList_ofList, String.toList_empty] at hlist
        exact hempty (by rw [hlist]; rfl)
      · intro c hc
        rw [String.toList_ofList] at hc
        refine ⟨?_, ?_, ?_⟩
        · rintro rfl
          exact hdot (hraw ▸ List.mem_append_left _ hc)
        · rintro rfl
          exact hbracket.1 hc
        · rintro rfl
          exact hbracket.2 hc

/-- **A piece without dots is a segment if it is an identifier with markers**, and it is read as
these. -/
theorem segment_eq_ok_iff {raw : List Char} (hdot : '.' ∉ raw) {parsed : Segment} :
    segment raw = .ok parsed ↔ raw = parsed.text.toList ∧ IsIdentifier parsed.key := by
  constructor
  · intro h
    exact isIdentifier_of_segment h hdot
  · rintro ⟨rfl, hkey⟩
    have hempty : parsed.key.toList.isEmpty = false := by simpa using hkey.toList_ne_nil
    have hbracket : (parsed.key.toList.contains '[' || parsed.key.toList.contains ']') = false := by
      simpa using ⟨hkey.open_notMem, hkey.close_notMem⟩
    simp only [segment, toList_text, stripMarkers_append_markers hkey.close_notMem, hempty,
      hbracket, Bool.false_eq_true, if_false, String.ofList_toList]

private theorem mapM_segment_eq_ok_iff {raws : List (List Char)} (hdot : ∀ raw ∈ raws, '.' ∉ raw)
    {parsed : List Segment} : raws.mapM segment = .ok parsed ↔
      raws = parsed.map (·.text.toList) ∧ ∀ segment ∈ parsed, IsIdentifier segment.key := by
  induction raws generalizing parsed with
  | nil =>
    rw [List.mapM_nil, pure_eq_ok_iff]
    constructor
    · rintro rfl
      simp
    · rintro ⟨hmap, -⟩
      exact (List.map_eq_nil_iff.mp hmap.symm).symm
  | cons raw rest ih =>
    have hrest := fun other hother ↦ hdot other (List.mem_cons_of_mem raw hother)
    simp only [List.mapM_cons, bind_eq_ok_iff, pure_eq_ok_iff, ih hrest,
      segment_eq_ok_iff (hdot raw List.mem_cons_self)]
    constructor
    · rintro ⟨first, ⟨hraw, hfirst⟩, others, ⟨hothers, hkeys⟩, rfl⟩
      exact ⟨by rw [hraw, hothers, List.map_cons], List.forall_mem_cons.mpr ⟨hfirst, hkeys⟩⟩
    · rintro ⟨hmap, hkeys⟩
      obtain ⟨first, others, rfl, hraw, hothers⟩ := List.map_eq_cons_iff.mp hmap.symm
      obtain ⟨hfirst, hkeys⟩ := List.forall_mem_cons.mp hkeys
      exact ⟨first, ⟨hraw.symm, hfirst⟩, others, ⟨hothers.symm, hkeys⟩, rfl⟩

/-! ## Writing as one text -/

def written (segments : List Segment) : String := ".".intercalate (segments.map Segment.text)

variable {path : String} {parsed : List Segment}

theorem toList_written (parsed : List Segment) :
    (written parsed).toList = ['.'].intercalate (parsed.map (·.text.toList)) := by
  rw [written, String.toList_intercalate, List.map_map, show ".".toList = ['.'] from by decide]
  rfl

theorem written_append_singleton (hne : parsed ≠ []) (last : Segment) :
    written (parsed ++ [last]) = written parsed ++ "." ++ last.text := by
  rw [written, List.map_append, List.map_singleton,
    String.intercalate_append_of_ne_nil (by simpa using hne) (List.cons_ne_nil _ _),
    String.intercalate_singleton, written]

theorem pieces_written (hne : parsed ≠ []) (h : ∀ segment ∈ parsed, IsIdentifier segment.key) :
    pieces '.' (written parsed).toList = parsed.map (·.text.toList) := by
  rw [toList_written, pieces_intercalate (by simpa using hne), List.flatMap_map,
    List.map_eq_flatMap]
  refine List.flatMap_congr fun segment hsegment ↦ ?_
  exact pieces_of_notMem (dot_notMem_text (h segment hsegment))

/-- **Reading undoes writing, and accepts nothing else.** -/
theorem segments_eq_ok_iff (hroot : isRoot path = false) : segments path = .ok parsed ↔
    parsed ≠ [] ∧ (∀ segment ∈ parsed, IsIdentifier segment.key) ∧ path = written parsed := by
  rw [segments, if_neg (by simp [hroot]), mapError_eq_ok_iff,
    mapM_segment_eq_ok_iff fun raw hraw ↦ separator_notMem_of_mem_pieces hraw]
  constructor
  · rintro ⟨hpieces, hkeys⟩
    refine ⟨?_, hkeys, ?_⟩
    · rintro rfl
      exact pieces_ne_nil '.' path.toList hpieces
    · rw [← String.toList_inj, toList_written, ← hpieces, intercalate_pieces]
  · rintro ⟨hne, hkeys, rfl⟩
    exact ⟨pieces_written hne hkeys, hkeys⟩

theorem failsOnly_segments (path : String) :
    FailsOnly (fun error ↦ ∃ reason, error = .invalidPath path reason) (segments path) := by
  intro error h
  rw [segments] at h
  split at h
  · cases h
  · rcases hpieces : (pieces '.' path.toList).mapM segment with reason | all
    · rw [hpieces] at h
      exact ⟨reason, (Except.error.inj h).symm⟩
    · rw [hpieces] at h
      cases h

/-! ## Going down by segments -/

/-- The path of a member under the key of a segment, or of elements at the depth that its markers
say. -/
def downSegment (path : String) (segment : Segment) : String :=
  Nat.repeat element segment.listDepth (child path segment.key)

/-- The path that segments lead to from the root. -/
def built (segments : List Segment) : String := segments.foldl downSegment root

theorem built_append_singleton (parsed : List Segment) (segment : Segment) :
    built (parsed ++ [segment]) = downSegment (built parsed) segment := by
  rw [built, List.foldl_append]
  rfl

theorem toList_repeat_element (path : String) (count : Nat) :
    (Nat.repeat element count path).toList = path.toList ++ markers count := by
  induction count with
  | zero => simp [Nat.repeat, markers]
  | succ count ih => rw [Nat.repeat, toList_element, ih, List.append_assoc, ← markers_succ]

theorem downSegment_root (segment : Segment) : downSegment root segment = segment.text := by
  rw [← String.toList_inj, downSegment, child_root, toList_repeat_element, toList_text]

theorem downSegment_eq (hroot : isRoot path = false) (segment : Segment) :
    downSegment path segment = path ++ "." ++ segment.text := by
  rw [← String.toList_inj, downSegment, toList_repeat_element, toList_child hroot]
  simp [toList_text]

theorem isRoot_downSegment (path : String) {segment : Segment} (h : IsIdentifier segment.key) :
    isRoot (downSegment path segment) = false := by
  rw [downSegment]
  rcases segment.listDepth with _ | depth
  · exact isRoot_child path h
  · exact isRoot_element _

theorem isRoot_built (hne : parsed ≠ []) (h : ∀ segment ∈ parsed, IsIdentifier segment.key) :
    isRoot (built parsed) = false := by
  obtain ⟨front, last, rfl⟩ := (List.eq_nil_or_concat' parsed).resolve_left hne
  rw [built_append_singleton]
  exact isRoot_downSegment _ (h last (by simp))

/-- **Going down writes the segments joined by dots.** -/
theorem built_eq_written (hne : parsed ≠ []) (h : ∀ segment ∈ parsed, IsIdentifier segment.key) :
    built parsed = written parsed := by
  induction parsed using List.reverseRecOn with
  | nil => exact absurd rfl hne
  | append_singleton front last ih =>
    -- Only the first segment goes down from the root, which leaves no dot.
    by_cases hfirst : front = []
    · subst hfirst
      exact (downSegment_root last).trans String.intercalate_singleton.symm
    · have hfront := (List.forall_mem_append.mp h).1
      rw [built_append_singleton, downSegment_eq (isRoot_built hfirst hfront), ih hfirst hfront,
        written_append_singleton hfirst]

theorem segments_built (hne : parsed ≠ []) (h : ∀ segment ∈ parsed, IsIdentifier segment.key) :
    segments (built parsed) = .ok parsed := by
  rw [segments_eq_ok_iff (isRoot_built hne h)]
  exact ⟨hne, h, built_eq_written hne h⟩

/-! ## Templates of the grammar -/

theorem IsTemplate.downSegment (h : IsTemplate path) {segment : Segment}
    (hkey : IsIdentifier segment.key) : IsTemplate (downSegment path segment) := by
  rw [Path.downSegment]
  generalize segment.listDepth = depth
  induction depth with
  | zero => exact h.child hkey
  | succ depth ih => exact ih.element

theorem isTemplate_foldl_downSegment (h : IsTemplate path)
    (hkeys : ∀ segment ∈ parsed, IsIdentifier segment.key) :
    IsTemplate (parsed.foldl downSegment path) := by
  induction parsed generalizing path with
  | nil => exact h
  | cons segment rest ih =>
    obtain ⟨hkey, hrest⟩ := List.forall_mem_cons.mp hkeys
    exact ih (h.downSegment hkey) hrest

theorem steps_downSegment (path : String) {segment : Segment} (hkey : IsIdentifier segment.key) :
    steps (downSegment path segment) = steps path ++
      .member segment.key :: List.replicate segment.listDepth (.element ()) := by
  rw [downSegment]
  generalize segment.listDepth = depth
  induction depth with
  | zero => exact steps_child path hkey
  | succ depth ih =>
    rw [Nat.repeat, steps_element, ih, List.replicate_succ', List.append_assoc, List.cons_append]

theorem prefix_steps_foldl_downSegment (path : String)
    (hkeys : ∀ segment ∈ parsed, IsIdentifier segment.key) :
    steps path <+: steps (parsed.foldl downSegment path) := by
  induction parsed generalizing path with
  | nil => exact List.prefix_refl _
  | cons segment rest ih =>
    obtain ⟨hkey, hrest⟩ := List.forall_mem_cons.mp hkeys
    refine List.IsPrefix.trans ?_ (ih _ hrest)
    rw [steps_downSegment path hkey]
    exact List.prefix_append _ _

/-- **Paths of the grammar are templates.** -/
theorem isTemplate_of_segments (h : segments path = .ok parsed) (hne : path ≠ "") :
    IsTemplate path := by
  by_cases hroot : isRoot path = true
  · rw [((isRoot_iff path).mp hroot).resolve_left hne]
    exact .root
  · rw [Bool.not_eq_true] at hroot
    obtain ⟨hparsed, hkeys, rfl⟩ := (segments_eq_ok_iff hroot).mp h
    rw [← built_eq_written hparsed hkeys]
    exact isTemplate_foldl_downSegment .root hkeys

/-- The elements of the root cannot be written, nor anything below them. -/
theorem head?_steps_of_segments (h : segments path = .ok parsed) (hne : path ≠ "") :
    (steps path).head? ≠ some (.element ()) := by
  intro hhead
  by_cases hroot : isRoot path = true
  · rw [((isRoot_iff path).mp hroot).resolve_left hne, steps_root] at hhead
    cases hhead
  · rw [Bool.not_eq_true] at hroot
    obtain ⟨hparsed, hkeys, rfl⟩ := (segments_eq_ok_iff hroot).mp h
    obtain ⟨first, rest, rfl⟩ := List.exists_cons_of_ne_nil hparsed
    obtain ⟨hfirst, hrest⟩ := List.forall_mem_cons.mp hkeys
    obtain ⟨after, hsteps⟩ := prefix_steps_foldl_downSegment (downSegment root first) hrest
    rw [← built_eq_written hparsed hkeys, built, List.foldl_cons, ← hsteps,
      steps_downSegment root hfirst, steps_root] at hhead
    cases hhead

theorem head?_steps_of_down {step : TemplateStep} (hstep : step.IsWritable)
    (h : (steps (down path step)).head? ≠ some (.element ())) :
    (steps path).head? ≠ some (.element ()) := by
  rw [steps_down path hstep] at h
  intro hhead
  obtain ⟨rest, hsteps⟩ := List.head?_eq_some_iff.mp hhead
  exact h (by rw [hsteps, List.cons_append, List.head?_cons])

/-- Every key that a template comes to begins a segment, and every marker is one more of the last
segment. -/
private theorem IsTemplate.exists_built (h : IsTemplate path)
    (hhead : (steps path).head? ≠ some (.element ())) : path = Path.root ∨
      ∃ parsed, parsed ≠ [] ∧ (∀ segment ∈ parsed, IsIdentifier segment.key) ∧
        built parsed = path := by
  induction h with
  | root => exact Or.inl rfl
  | @down parent step hparent hstep ih =>
    right
    rcases ih (head?_steps_of_down hstep hhead) with rfl | ⟨parsed, hne, hkeys, rfl⟩
    · rcases step with key | index
      · exact ⟨[⟨key, 0⟩], List.cons_ne_nil _ _, List.forall_mem_singleton.mpr hstep, rfl⟩
      · exact absurd (by rw [steps_down _ hstep, steps_root]; rfl) hhead
    · rcases step with key | index
      · refine ⟨parsed ++ [⟨key, 0⟩], by simp, ?_, built_append_singleton _ _⟩
        exact List.forall_mem_append.mpr ⟨hkeys, List.forall_mem_singleton.mpr hstep⟩
      · obtain ⟨front, last, rfl⟩ := (List.eq_nil_or_concat' parsed).resolve_left hne
        obtain ⟨hfront, hlast⟩ := List.forall_mem_append.mp hkeys
        refine ⟨front ++ [⟨last.key, last.listDepth + 1⟩], by simp, ?_, ?_⟩
        · have hkey : IsIdentifier last.key := hlast last List.mem_cons_self
          exact List.forall_mem_append.mpr ⟨hfront, List.forall_mem_singleton.mpr hkey⟩
        · rw [built_append_singleton, built_append_singleton]
          rfl

/-- **Templates that begin with a key are paths of the grammar.** -/
theorem IsTemplate.exists_segments (h : IsTemplate path)
    (hhead : (steps path).head? ≠ some (.element ())) : ∃ parsed, segments path = .ok parsed := by
  rcases h.exists_built hhead with rfl | ⟨parsed, hne, hkeys, rfl⟩
  · exact ⟨[], segments_root⟩
  · exact ⟨parsed, segments_built hne hkeys⟩

/-! ## The grammar -/

/-- **Reading decides the grammar, and undoes going down.** A text is read if it is a spelling of
the root or identifiers with markers joined by dots. What is read leads back to the path, and what
is built from segments is read as these. A fault names the whole text. -/
theorem segments_decides_grammar (path : String) :
    ((∃ parsed, segments path = .ok parsed) ↔ path = "" ∨ path = root ∨
      ∃ parsed, parsed ≠ [] ∧ (∀ segment ∈ parsed, IsIdentifier segment.key) ∧
        path = written parsed) ∧
      (∀ parsed, segments path = .ok parsed → isRoot path = false → built parsed = path) ∧
      (∀ error, segments path = .error error →
        error.kind = "invalid_path" ∧ error.field = path) ∧
      ∀ parsed, parsed ≠ [] → (∀ segment ∈ parsed, IsIdentifier segment.key) →
        segments (built parsed) = .ok parsed := by
  refine ⟨?_, ?_, ?_, ?_⟩
  · rw [← or_assoc, ← isRoot_iff]
    by_cases hroot : isRoot path = true
    · exact ⟨fun _ ↦ Or.inl hroot, fun _ ↦ ⟨[], by rw [segments, if_pos hroot]⟩⟩
    · rw [Bool.not_eq_true] at hroot
      simp only [segments_eq_ok_iff hroot, hroot, Bool.false_eq_true, false_or]
  · intro parsed hparsed hroot
    obtain ⟨hne, hkeys, rfl⟩ := (segments_eq_ok_iff hroot).mp hparsed
    exact built_eq_written hne hkeys
  · intro error herror
    obtain ⟨reason, rfl⟩ := failsOnly_segments path error herror
    exact ⟨rfl, rfl⟩
  · intro parsed hne hkeys
    exact segments_built hne hkeys

/-- Two lists inside each other below a list of objects, under keys that need not be ASCII and may
be blank; and a marker that stands where a key has to be. -/
theorem segments_decides_grammar_nested :
    let path := "units[].ключ[][]. "
    let parsed : List Segment := [⟨"units", 1⟩, ⟨"ключ", 2⟩, ⟨" ", 0⟩]
    segments path = .ok parsed ∧ built parsed = path ∧ segments (built parsed) = .ok parsed ∧
      ∃ error, segments "units[].[]" = .error error ∧
        error.kind = "invalid_path" ∧ error.field = "units[].[]" := by
  intro path parsed
  have hread : segments path = .ok parsed := by decide
  have hkeys : ∀ segment ∈ parsed, IsIdentifier segment.key := by decide
  have hfault : segments "units[].[]" = .error (.invalidPath "units[].[]" "empty segment") := by
    decide
  obtain ⟨-, hback, -, hbuilt⟩ := segments_decides_grammar path
  refine ⟨hread, hback parsed hread (by decide), hbuilt parsed (List.cons_ne_nil _ _) hkeys, ?_⟩
  exact ⟨_, hfault, (segments_decides_grammar "units[].[]").2.2.1 _ hfault⟩

end DocumentSchema.Path
