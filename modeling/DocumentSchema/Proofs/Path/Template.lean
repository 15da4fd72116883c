import DocumentSchema.Proofs.Path.Steps

/-!
# Templates

The paths that steps from the root lead to, when every key can be written. Each of them is the root
or lies directly below one other template, and the operations that go up find it: this is what
walking up a path rests on, wherever it is done.
-/

namespace DocumentSchema.Path

/-! ## Characters of a step down -/

@[simp] theorem toList_listMarker : listMarker.toList = ['[', ']'] := by decide

@[simp] theorem toList_element (path : String) :
    (element path).toList = path.toList ++ ['[', ']'] := by
  rw [element, String.toList_append, toList_listMarker]

theorem child_of_isRoot {parent : String} (h : isRoot parent = true) (key : String) :
    child parent key = key := if_pos h

theorem toList_child {parent : String} (h : isRoot parent = false) (key : String) :
    (child parent key).toList = parent.toList ++ '.' :: key.toList := by
  rw [child, if_neg (by simp [h]), String.toList_append, String.toList_append,
    show ".".toList = ['.'] from by decide, List.append_assoc, List.singleton_append]

theorem isRoot_element (path : String) : isRoot (element path) = false := by
  rw [Bool.eq_false_iff, ne_eq, isRoot_iff, not_or]
  constructor
  · intro h
    have hlist := congrArg String.toList h
    simp at hlist
  · intro h
    have hlist := congrArg (fun text : String ↦ text.toList.getLast?) h
    rw [toList_element, show root.toList = ['.'] from by decide] at hlist
    simp at hlist

theorem isRoot_child (parent : String) {key : String} (h : IsIdentifier key) :
    isRoot (child parent key) = false := by
  by_cases hroot : isRoot parent = true
  · rw [child_of_isRoot hroot]
    exact h.isRoot_eq_false
  · rw [Bool.not_eq_true] at hroot
    rw [Bool.eq_false_iff, ne_eq, isRoot_iff, not_or]
    have hlist := toList_child hroot key
    constructor
    · intro hempty
      rw [hempty] at hlist
      simp at hlist
    · intro hdot
      rw [hdot, show root.toList = ['.'] from by decide] at hlist
      have hlength := congrArg List.length hlist
      have hkey : 0 < key.toList.length := List.length_pos_iff.mpr h.toList_ne_nil
      simp only [List.length_append, List.length_cons, List.length_nil] at hlength
      omega

/-! ## Up -/

theorem stripMarkerChars?_marker (before : List Char) :
    stripMarkerChars? (before ++ ['[', ']']) = some before := by
  rw [stripMarkerChars?, List.reverse_append]
  simp

/-- No marker stands at the end of a text that ends in another character. -/
theorem stripMarkerChars?_append (before : List Char) {after : List Char} (hne : after ≠ [])
    (h : ']' ∉ after) : stripMarkerChars? (before ++ after) = none := by
  obtain ⟨front, last, rfl⟩ := (List.eq_nil_or_concat after).resolve_left hne
  have hlast : last ≠ ']' := by
    rintro rfl
    simp at h
  rw [stripMarkerChars?, List.reverse_append, List.concat_eq_append, List.reverse_append,
    List.reverse_singleton, List.append_assoc, List.singleton_append]
  split
  · rename_i heq
    exact absurd (List.cons.inj heq).1 hlast
  · rfl

@[simp] theorem stripMarker?_element (path : String) : stripMarker? (element path) = some path := by
  rw [stripMarker?, toList_element, stripMarkerChars?_marker, Option.map_some,
    String.ofList_toList]

theorem stripMarker?_child (parent : String) {key : String} (h : IsIdentifier key) :
    stripMarker? (child parent key) = none := by
  by_cases hroot : isRoot parent = true
  · have hkey := stripMarkerChars?_append [] h.toList_ne_nil h.close_notMem
    rw [List.nil_append] at hkey
    rw [child_of_isRoot hroot, stripMarker?, hkey, Option.map_none]
  · rw [Bool.not_eq_true] at hroot
    have hkey := stripMarkerChars?_append (parent.toList ++ ['.']) h.toList_ne_nil h.close_notMem
    rw [List.append_assoc, List.singleton_append] at hkey
    rw [stripMarker?, toList_child hroot, hkey, Option.map_none]

@[simp] theorem isListTemplate_element (path : String) : isListTemplate (element path) = true := by
  rw [isListTemplate, stripMarker?_element]
  rfl

theorem isListTemplate_child (parent : String) {key : String} (h : IsIdentifier key) :
    isListTemplate (child parent key) = false := by
  rw [isListTemplate, stripMarker?_child parent h]
  rfl

theorem splitLastDot?_of_notMem {path : String} (h : '.' ∉ path.toList) :
    splitLastDot? path = none := by
  have hall : ∀ c ∈ path.toList.reverse, decide (c ≠ '.') = true := by
    intro c hc
    have hne : c ≠ '.' := fun hdot ↦ h (hdot ▸ List.mem_reverse.mp hc)
    simpa using hne
  have hdrop : path.toList.reverse.dropWhile (· ≠ '.') = [] := by
    rw [← List.append_nil path.toList.reverse, List.dropWhile_append_of_pos hall,
      List.dropWhile_nil]
  simp only [splitLastDot?, hdrop]

theorem splitLastDot?_child {parent key : String} (hroot : isRoot parent = false)
    (h : IsIdentifier key) : splitLastDot? (child parent key) = some (parent, key) := by
  have hkey : ∀ c ∈ key.toList.reverse, decide (c ≠ '.') = true := by
    intro c hc
    have hne : c ≠ '.' := fun hdot ↦ h.dot_notMem (hdot ▸ List.mem_reverse.mp hc)
    simpa using hne
  have hreverse : (child parent key).toList.reverse
      = key.toList.reverse ++ '.' :: parent.toList.reverse := by
    rw [toList_child hroot, List.reverse_append, List.reverse_cons, List.append_assoc,
      List.singleton_append]
  -- Read from the end, the key comes first and the dot ends it.
  have hdrop : (key.toList.reverse ++ '.' :: parent.toList.reverse).dropWhile (· ≠ '.')
      = '.' :: parent.toList.reverse := by
    rw [List.dropWhile_append_of_pos hkey]
    simp
  have htake : (key.toList.reverse ++ '.' :: parent.toList.reverse).takeWhile (· ≠ '.')
      = key.toList.reverse := by
    rw [List.takeWhile_append_of_pos hkey]
    simp
  rw [splitLastDot?, hreverse]
  simp only [hdrop, htake, List.reverse_reverse, String.ofList_toList]

/-! ## Templates -/

theorem isRoot_down (path : String) {step : TemplateStep} (h : step.IsWritable) :
    isRoot (down path step) = false := by
  cases step with
  | member key => exact isRoot_child path h
  | element _ => exact isRoot_element path

/-- The paths that steps from the root lead to. -/
inductive IsTemplate : String → Prop
  | root : IsTemplate root
  | down {path : String} {step : TemplateStep} : IsTemplate path → step.IsWritable →
      IsTemplate (down path step)

namespace IsTemplate

variable {path other key : String}

theorem child (h : IsTemplate path) (hkey : IsIdentifier key) : IsTemplate (Path.child path key) :=
  @down path (.member key) h hkey

theorem element (h : IsTemplate path) : IsTemplate (Path.element path) :=
  @down path (.element ()) h trivial

theorem ne_empty (h : IsTemplate path) : path ≠ "" := by
  cases h with
  | root => decide
  | @down parent step _ hstep =>
    intro hempty
    have hroot := isRoot_down parent hstep
    rw [hempty] at hroot
    exact absurd hroot (by decide)

theorem eq_root_of_isRoot (h : IsTemplate path) (hroot : isRoot path = true) : path = Path.root :=
  ((isRoot_iff path).mp hroot).resolve_left h.ne_empty

theorem of_element (h : IsTemplate (Path.element path)) : IsTemplate path := by
  generalize hpath : Path.element path = below at h
  have hmarker := stripMarker?_element path
  rw [hpath] at hmarker
  cases h with
  | root =>
    have hroot := isRoot_element path
    rw [hpath, isRoot_root] at hroot
    cases hroot
  | @down parent step hparent hstep =>
    cases step with
    | member key => rw [Path.down, stripMarker?_child parent hstep] at hmarker; cases hmarker
    | element _ =>
      rw [Path.down, stripMarker?_element] at hmarker
      exact Option.some.inj hmarker ▸ hparent

/-- **Templates are determined by their steps.** -/
theorem template_steps (h : IsTemplate path) : template (steps path) = path := by
  induction h with
  | root => rfl
  | down _ hstep ih => rw [steps_down _ hstep, template_append_singleton, ih]

theorem isWritable_of_mem_steps (h : IsTemplate path) : ∀ step ∈ steps path, step.IsWritable := by
  induction h with
  | root => simp
  | down _ hstep ih =>
    rw [steps_down _ hstep]
    intro other hother
    rcases List.mem_append.mp hother with hother | hother
    · exact ih other hother
    · rw [List.mem_singleton.mp hother]
      exact hstep

theorem eq_of_steps_eq (h : IsTemplate path) (hother : IsTemplate other)
    (hsteps : steps path = steps other) : path = other := by
  rw [← h.template_steps, hsteps, hother.template_steps]

/-- Two steps down that lead to one template start from one template and are one step. -/
theorem down_inj (h : IsTemplate path) (hother : IsTemplate other) {step next : TemplateStep}
    (hstep : step.IsWritable) (hnext : next.IsWritable) :
    Path.down path step = Path.down other next ↔ path = other ∧ step = next := by
  constructor
  · intro heq
    have hsteps := congrArg steps heq
    rw [steps_down path hstep, steps_down other hnext] at hsteps
    obtain ⟨hfront, hlast⟩ := List.append_inj' hsteps rfl
    exact ⟨h.eq_of_steps_eq hother hfront, List.singleton_inj.mp hlast⟩
  · rintro ⟨rfl, rfl⟩
    rfl

theorem length_steps_le (h : IsTemplate path) : (steps path).length ≤ path.length := by
  induction h with
  | root => decide
  | @down parent step _ hstep ih =>
    rw [steps_down _ hstep, List.length_append, List.length_singleton]
    rw [← String.length_toList] at ih ⊢
    cases step with
    | element _ =>
      rw [Path.down, toList_element, List.length_append]
      simp only [List.length_cons, List.length_nil]
      omega
    | member key =>
      have hpos : 0 < key.toList.length := List.length_pos_iff.mpr hstep.toList_ne_nil
      rw [Path.down]
      by_cases hroot : isRoot parent = true
      · have hparent : (steps parent).length = 0 := by
          rcases (isRoot_iff parent).mp hroot with rfl | rfl
          · rw [steps, readSteps_empty, List.length_nil]
          · rw [steps_root, List.length_nil]
        rw [child_of_isRoot hroot]
        omega
      · rw [Bool.not_eq_true] at hroot
        rw [toList_child hroot, List.length_append, List.length_cons]
        omega

end IsTemplate

/-! ## Going up from a template -/

theorem splitLast?_element {path : String} (h : IsTemplate path) :
    splitLast? (element path) = some (path, listMarker) := by
  rw [splitLast?, if_neg (by simp [isRoot_element]), stripMarker?_element]
  simp [normalize, h.ne_empty]

theorem splitLast?_child {parent key : String} (h : IsTemplate parent) (hkey : IsIdentifier key) :
    splitLast? (child parent key) = some (parent, key) := by
  rw [splitLast?, if_neg (by simp [isRoot_child parent hkey]), stripMarker?_child parent hkey]
  by_cases hroot : isRoot parent = true
  · rw [h.eq_root_of_isRoot hroot, child_root]
    simp only [splitLastDot?_of_notMem hkey.dot_notMem]
  · rw [Bool.not_eq_true] at hroot
    simp only [splitLastDot?_child hroot hkey]

theorem parent?_down {path : String} (h : IsTemplate path) {step : TemplateStep}
    (hstep : step.IsWritable) : parent? (down path step) = some path := by
  cases step with
  | member key => rw [parent?, down, splitLast?_child h hstep, Option.map_some]
  | element _ => rw [parent?, down, splitLast?_element h, Option.map_some]

end DocumentSchema.Path
