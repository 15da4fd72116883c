import DocumentSchema.Path
import Mathlib.Data.List.Induction

/-!
# Steps of a path

A path is a word for a sequence of steps down from the root. `template` and `concrete` write a
sequence of steps as a path, with the two operations that every other part of the library uses to
go down; `steps` and `locationSteps` read a path back.

Reading is total, and says something only about paths whose keys are identifiers: there it undoes
writing, step by step. That is the only fact about separators and brackets that the rest of the
theory needs. In particular two sequences of steps that are written alike are the same, so a path
determines its place.

The pieces between the dots of the root are empty, and an empty key is no step. This is what lets
one reader serve the root, the members of the root, which are written without a dot, and the marker
of a list that is declared at the root itself.
-/

namespace DocumentSchema

/-- A step down from a value: to the member of an object under a key, or to what an index selects
of the elements of a list. -/
inductive Step (ι : Type) where
  | member (key : String)
  | element (index : ι)
  deriving DecidableEq, Repr

/-- A step of a template. An element step goes to every element. -/
abbrev TemplateStep := Step Unit

/-- A step to a location. An element step goes to the element at a position. -/
abbrev LocationStep := Step Nat

namespace Path

/-! ## Identifiers -/

/-- The key can be written in a path: it is not empty and holds neither dots nor brackets. -/
def IsIdentifier (key : String) : Prop :=
  key ≠ "" ∧ ∀ c ∈ key.toList, c ≠ '.' ∧ c ≠ '[' ∧ c ≠ ']'

instance : DecidablePred IsIdentifier := fun key ↦
  @instDecidableAnd (key ≠ "") _ inferInstance (List.decidableBAll _ key.toList)

namespace IsIdentifier

variable {key : String}

theorem toList_ne_nil (h : IsIdentifier key) : key.toList ≠ [] := fun hnil ↦
  h.1 (String.toList_eq_nil_iff.mp hnil)

theorem dot_notMem (h : IsIdentifier key) : '.' ∉ key.toList := fun hc ↦ (h.2 _ hc).1 rfl

theorem open_notMem (h : IsIdentifier key) : '[' ∉ key.toList := fun hc ↦ (h.2 _ hc).2.1 rfl

theorem close_notMem (h : IsIdentifier key) : ']' ∉ key.toList := fun hc ↦ (h.2 _ hc).2.2 rfl

theorem isRoot_eq_false (h : IsIdentifier key) : isRoot key = false := by
  rw [Bool.eq_false_iff, ne_eq, isRoot_iff, not_or]
  refine ⟨h.1, ?_⟩
  rintro rfl
  exact h.dot_notMem (by decide)

end IsIdentifier

end Path

namespace Step

variable {ι : Type}

/-- The key that a step names can be written in a path. -/
def IsWritable : Step ι → Prop
  | .member key => Path.IsIdentifier key
  | .element _ => True

instance : DecidablePred (IsWritable (ι := ι)) := fun
  | .member _ => inferInstanceAs (Decidable (Path.IsIdentifier _))
  | .element _ => inferInstanceAs (Decidable True)

/-- The step of a template that a step to a location is a case of. -/
def general : LocationStep → TemplateStep
  | .member key => .member key
  | .element _ => .element ()

theorem isWritable_general {step : LocationStep} : step.general.IsWritable ↔ step.IsWritable := by
  cases step <;> rfl

end Step

namespace Path

/-! ## Writing -/

/-- One step down from a template. -/
def down (path : String) : TemplateStep → String
  | .member key => child path key
  | .element _ => element path

def downTo (path : String) : LocationStep → String
  | .member key => child path key
  | .element position => concreteElement path position

/-- The template that steps from the root lead to. -/
def template (steps : List TemplateStep) : String := steps.foldl down root

/-- The concrete path that steps from the root lead to. -/
def concrete (steps : List LocationStep) : String := steps.foldl downTo root

@[simp] theorem template_nil : template [] = root := rfl

@[simp] theorem concrete_nil : concrete [] = root := rfl

@[simp] theorem template_append_singleton (steps : List TemplateStep) (step : TemplateStep) :
    template (steps ++ [step]) = down (template steps) step := by
  rw [template, List.foldl_append]
  rfl

@[simp] theorem concrete_append_singleton (steps : List LocationStep) (step : LocationStep) :
    concrete (steps ++ [step]) = downTo (concrete steps) step := by
  rw [concrete, List.foldl_append]
  rfl

theorem toList_append_bracket (path text : String) :
    (path ++ "[" ++ text ++ "]").toList = path.toList ++ '[' :: (text.toList ++ [']']) := by
  rw [String.toList_append, String.toList_append, String.toList_append,
    show "[".toList = ['['] from by decide, show "]".toList = [']'] from by decide]
  simp

theorem isDigit_of_mem_toString {position : Nat} {c : Char} (h : c ∈ (toString position).toList) :
    c.isDigit = true := by
  rw [Nat.toString_eq_repr, Nat.repr_eq_ofList_toDigits, String.toList_ofList] at h
  exact Nat.isDigit_of_mem_toDigits (by decide) (by decide) h

/-! ## Reading -/

section Reading

variable {ι : Type} (read : List Char → ι)

/-- The steps of one piece between dots: a key, and what stands in brackets after it. -/
def readPiece (piece : List Char) : List (Step ι) :=
  match pieces '[' piece with
  | [] => []
  | key :: brackets =>
    (if key.isEmpty then [] else [.member (String.ofList key)]) ++
      brackets.map fun bracket ↦ .element (read bracket.dropLast)

/-- The steps of a path, given what an index in brackets says. -/
def readSteps (path : String) : List (Step ι) :=
  (pieces '.' path.toList).flatMap (readPiece read)

theorem readPiece_of_notMem {key : List Char} (hkey : key ≠ []) (h : '[' ∉ key) :
    readPiece read key = [.member (String.ofList key)] := by
  have hempty : key.isEmpty = false := by simpa using hkey
  rw [readPiece, pieces_of_notMem h]
  simp [hempty]

theorem readPiece_append_bracket (piece : List Char) {text : List Char} (h : '[' ∉ text) :
    readPiece read (piece ++ '[' :: (text ++ [']']))
      = readPiece read piece ++ [.element (read text)] := by
  have hbracket : '[' ∉ text ++ [']'] := by simp [h]
  obtain ⟨key, brackets, hpiece⟩ := List.exists_cons_of_ne_nil (pieces_ne_nil '[' piece)
  rw [readPiece, pieces_append_separator_append, pieces_of_notMem hbracket, readPiece, hpiece]
  simp

theorem readSteps_root : readSteps read root = [] := by
  rw [readSteps, show root.toList = ['.'] from by decide]
  rfl

theorem readSteps_empty : readSteps read "" = [] := by
  rw [readSteps, String.toList_empty]
  rfl

/-- A key that can be written is read back as the last step. -/
theorem readSteps_child (parent : String) {key : String} (h : IsIdentifier key) :
    readSteps read (child parent key) = readSteps read parent ++ [.member key] := by
  have hkey : readSteps read key = [.member key] := by
    rw [readSteps, pieces_of_notMem h.dot_notMem, List.flatMap_singleton,
      readPiece_of_notMem read h.toList_ne_nil h.open_notMem, String.ofList_toList]
  by_cases hroot : isRoot parent = true
  · rw [child, if_pos hroot, hkey]
    -- Both spellings of the root are read as no steps, and a member of the root is its key alone.
    rcases (isRoot_iff parent).mp hroot with rfl | rfl
    · rw [readSteps_empty, List.nil_append]
    · rw [readSteps_root, List.nil_append]
  · have hlist : (parent ++ "." ++ key).toList = parent.toList ++ '.' :: key.toList := by
      rw [String.toList_append, String.toList_append, show ".".toList = ['.'] from by decide,
        List.append_assoc, List.singleton_append]
    rw [child, if_neg hroot, readSteps, hlist, pieces_append_separator_append, List.flatMap_append]
    exact congrArg (readSteps read parent ++ ·) hkey

/-- Text in brackets is read back as the last step, if it holds no separator itself. -/
theorem readSteps_append_bracket (path : String) {text : String} (hdot : '.' ∉ text.toList)
    (hopen : '[' ∉ text.toList) :
    readSteps read (path ++ "[" ++ text ++ "]")
      = readSteps read path ++ [.element (read text.toList)] := by
  have hbracket : '.' ∉ '[' :: (text.toList ++ [']']) := by simp [hdot]
  -- The bracket holds no dot, so it goes into the last piece and leaves the others alone.
  obtain ⟨before, last, hpath, happend⟩ := exists_pieces_append hbracket path.toList
  rw [readSteps, toList_append_bracket, happend, readSteps, hpath, List.flatMap_append,
    List.flatMap_append, List.flatMap_singleton, List.flatMap_singleton,
    readPiece_append_bracket read last hopen, List.append_assoc]

end Reading

def steps (path : String) : List TemplateStep := readSteps (fun _ ↦ ()) path

def locationSteps (path : String) : List LocationStep := readSteps (Nat.ofDigitChars 10 · 0) path

@[simp] theorem steps_root : steps root = [] := readSteps_root _

@[simp] theorem locationSteps_root : locationSteps root = [] := readSteps_root _

theorem steps_child (parent : String) {key : String} (h : IsIdentifier key) :
    steps (child parent key) = steps parent ++ [.member key] := readSteps_child _ parent h

theorem locationSteps_child (parent : String) {key : String} (h : IsIdentifier key) :
    locationSteps (child parent key) = locationSteps parent ++ [.member key] :=
  readSteps_child _ parent h

@[simp] theorem steps_element (path : String) :
    steps (element path) = steps path ++ [.element ()] := by
  have hmarker : element path = path ++ "[" ++ "" ++ "]" := by
    rw [element, String.append_empty, String.append_assoc]
    rfl
  rw [hmarker]
  exact readSteps_append_bracket _ path (by simp) (by simp)

@[simp] theorem locationSteps_concreteElement (path : String) (position : Nat) :
    locationSteps (concreteElement path position)
      = locationSteps path ++ [.element position] := by
  have htext : (toString position).toList = Nat.toDigits 10 position := by
    rw [Nat.toString_eq_repr, Nat.repr_eq_ofList_toDigits, String.toList_ofList]
  -- None of the digits is a dot or a bracket.
  have hdot : '.' ∉ (toString position).toList := fun hc ↦
    absurd (isDigit_of_mem_toString hc) (by decide)
  have hopen : '[' ∉ (toString position).toList := fun hc ↦
    absurd (isDigit_of_mem_toString hc) (by decide)
  rw [concreteElement, locationSteps, readSteps_append_bracket _ path hdot hopen, htext,
    Nat.ofDigitChars_ten_toDigits]
  rfl

theorem steps_down (path : String) {step : TemplateStep} (h : step.IsWritable) :
    steps (down path step) = steps path ++ [step] := by
  cases step with
  | member key => exact steps_child path h
  | element index => exact steps_element path

theorem locationSteps_downTo (path : String) {step : LocationStep} (h : step.IsWritable) :
    locationSteps (downTo path step) = locationSteps path ++ [step] := by
  cases step with
  | member key => exact locationSteps_child path h
  | element position => exact locationSteps_concreteElement path position

/-- **Concrete paths identify locations.** Steps whose keys can be written are read back from the
path that they are written as. -/
theorem locationSteps_concrete {route : List LocationStep} (h : ∀ step ∈ route, step.IsWritable) :
    locationSteps (concrete route) = route := by
  induction route using List.reverseRecOn with
  | nil => rfl
  | append_singleton route step ih =>
    have hroute : ∀ other ∈ route, other.IsWritable := fun other hother ↦
      h other (List.mem_append_left _ hother)
    rw [concrete_append_singleton, locationSteps_downTo _ (h step (by simp)), ih hroute]

theorem eq_of_concrete_eq {first second : List LocationStep}
    (hfirst : ∀ step ∈ first, step.IsWritable) (hsecond : ∀ step ∈ second, step.IsWritable)
    (h : concrete first = concrete second) : first = second := by
  rw [← locationSteps_concrete hfirst, h, locationSteps_concrete hsecond]

end Path

end DocumentSchema
