import DocumentSchema.Text.Pieces

/-!
# File paths

A file path is a text. Cut at slashes it is a list of components: doubled slashes, slashes at the
end and dots that stand for the directory itself say nothing, except a dot at the very beginning.
Two paths with the same components are the same path, whatever their spelling.
-/

namespace DocumentSchema.FilePath

/-- A component of a file path. -/
inductive Component where
  /-- The root of the file system, at the beginning of an absolute path. -/
  | root
  /-- A dot at the beginning of a path. -/
  | here
  /-- Two dots. -/
  | up
  | name (text : String)
  deriving DecidableEq, Repr

/-- The path starts at the root. -/
def isAbsolute (path : String) : Bool := path.toList.head? = some '/'

/-- The texts between the slashes. -/
def parts (path : String) : List String := (pieces '/' path.toList).map String.ofList

/-- The component of a text between slashes that is not at the beginning. -/
def component? (part : String) : Option Component :=
  if part = "" ∨ part = "." then none
  else if part = ".." then some .up
  else some (.name part)

/-- The components of a path. -/
def components (path : String) : List Component :=
  let rest := (parts path).filterMap component?
  if isAbsolute path then .root :: rest
  else if (parts path).head? = some "." then .here :: rest
  else rest

/-- Two spellings of one path. -/
def same (first second : String) : Bool := components first = components second

/-- The name that a path ends with, if its last component is a name. -/
def fileName? (path : String) : Option String :=
  match (components path).getLast? with
  | some (.name text) => some text
  | _ => none

/-- A name below a directory, with one slash between. -/
def join (directory name : String) : String :=
  if directory = "" ∨ directory.toList.getLast? = some '/' then directory ++ name
  else directory ++ "/" ++ name

@[simp] theorem same_self (path : String) : same path path = true := by simp [same]

theorem same_iff (first second : String) :
    same first second = true ↔ components first = components second := by simp [same]

/-- A name in a path is not empty, not one of the two dots, and has no slash in it. -/
theorem name_of_component? {part text : String} (h : component? part = some (.name text)) :
    text = part ∧ text ≠ "" ∧ text ≠ "." ∧ text ≠ ".." := by
  unfold component? at h
  split at h
  · cases h
  · rename_i hdot
    split at h
    · cases h
    · rename_i hup
      cases h
      rw [not_or] at hdot
      exact ⟨rfl, hdot.1, hdot.2, hup⟩

theorem component?_eq_none_iff {part : String} :
    component? part = none ↔ part = "" ∨ part = "." := by
  unfold component?
  split
  · simp_all
  · split <;> simp_all

theorem slash_notMem_of_mem_parts {path part : String} (h : part ∈ parts path) :
    '/' ∉ part.toList := by
  obtain ⟨piece, hpiece, rfl⟩ := List.mem_map.1 h
  simpa using separator_notMem_of_mem_pieces hpiece

theorem parts_ne_nil (path : String) : parts path ≠ [] := by
  simp [parts, pieces_ne_nil]

/-- A text without a slash is its only part. -/
theorem parts_of_notMem {text : String} (h : '/' ∉ text.toList) : parts text = [text] := by
  rw [parts, pieces_of_notMem h, List.map_singleton, String.ofList_toList]

/-- A slash ends a part, whatever stands before it. -/
theorem parts_append_slash_append (text rest : String) :
    parts (text ++ "/" ++ rest) = parts text ++ parts rest := by
  have htext : (text ++ "/" ++ rest).toList = text.toList ++ '/' :: rest.toList := by simp
  rw [parts, htext, pieces_append_separator_append, List.map_append]
  rfl

/-- Joining the parts gives the path back. -/
theorem intercalate_parts (path : String) : "/".intercalate (parts path) = path := by
  have hpieces : (parts path).map String.toList = pieces '/' path.toList := by simp [parts]
  rw [← String.toList_inj, String.toList_intercalate, hpieces]
  exact intercalate_pieces '/' path.toList

/-- What was joined is cut where it was joined, and where its texts are cut. -/
theorem parts_intercalate {texts : List String} (h : texts ≠ []) :
    parts ("/".intercalate texts) = texts.flatMap parts := by
  have hslash : "/".toList = ['/'] := by decide
  rw [parts, String.toList_intercalate, hslash, pieces_intercalate (by simpa using h),
    List.map_flatMap, List.flatMap_map]
  rfl

end DocumentSchema.FilePath
