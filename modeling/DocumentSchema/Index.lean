import DocumentSchema.Declaration

/-!
# The index of a document

The index lists the values of a document by the template of their place. It is built in one walk
that is guided by a set of known templates: a member whose template is not known is noted as extra
and not entered, elements whose template is not known are passed over, and everything else is listed
with its concrete path and entered by its actual shape, whatever its declared type.

The listing is kept in the order of the walk, so the values of one template stand in document
order. A list that was entered makes its element template reached even if it has no elements.
-/

namespace DocumentSchema

/-- A value of a document and its place. The root alone has no container. -/
structure IndexEntry where
  path : String
  value : Json
  container : Option ContainerKind

/-- The index of a document. -/
structure Index where
  /-- Every value listed, with its template, in document order. -/
  listed : List (String × IndexEntry) := []
  /-- The element templates of lists that were entered. -/
  entered : List String := []
  /-- The concrete paths of members that are not known, in document order. -/
  extraFields : List String := []

namespace Index

/-- The values of a template in document order. -/
def entries (index : Index) (template : String) : List IndexEntry :=
  index.listed.filterMap fun (known, entry) ↦ if known = template then some entry else none

/-- The template was reached, with or without values. -/
def contains (index : Index) (template : String) : Bool :=
  index.listed.any (·.1 = template) || index.entered.contains template

/-- Two parts of a walk, one after the other. -/
def append (first second : Index) : Index :=
  { listed := first.listed ++ second.listed
    entered := first.entered ++ second.entered
    extraFields := first.extraFields ++ second.extraFields }

instance : Append Index := ⟨append⟩

/-- One value. -/
def single (template : String) (entry : IndexEntry) : Index := { listed := [(template, entry)] }

/-- One extra member. -/
def extra (path : String) : Index := { extraFields := [path] }

mutual

/-- The walk below a value. -/
def below (known : String → Bool) (template path : String) : Json → Index
  | .object members => ofMembers known template path members
  | .array items =>
    let element := Path.element template
    if known element then
      { entered := [element] } ++ ofItems known element path 0 items
    else {}
  | _ => {}

/-- The walk over the members of the object at a path. -/
def ofMembers (known : String → Bool) (template path : String) : List (String × Json) → Index
  | [] => {}
  | (key, value) :: rest =>
    let memberTemplate := Path.child template key
    let memberPath := Path.child path key
    let here :=
      if known memberTemplate then
        single memberTemplate ⟨memberPath, value, some .object⟩ ++
          below known memberTemplate memberPath value
      else extra memberPath
    here ++ ofMembers known template path rest

/-- The walk over the elements of the list at a path, from a position on. -/
def ofItems (known : String → Bool) (element path : String) (position : Nat) : List Json → Index
  | [] => {}
  | item :: rest =>
    let itemPath := Path.concreteElement path position
    single element ⟨itemPath, item, some .list⟩ ++ below known element itemPath item ++
      ofItems known element path (position + 1) rest

end

/-- The index of a document for a set of known templates. The root is listed if it is known, and
entered if it is an object. -/
def ofDocument (known : String → Bool) (document : Json) : Index :=
  let start : Index :=
    if known Path.root then single Path.root ⟨Path.root, document, none⟩ else {}
  match document with
  | .object members => start ++ ofMembers known Path.root Path.root members
  | _ => start

@[simp] theorem listed_append (first second : Index) :
    (first ++ second).listed = first.listed ++ second.listed := rfl

@[simp] theorem entered_append (first second : Index) :
    (first ++ second).entered = first.entered ++ second.entered := rfl

@[simp] theorem extraFields_append (first second : Index) :
    (first ++ second).extraFields = first.extraFields ++ second.extraFields := rfl

@[simp] theorem entries_append (first second : Index) (template : String) :
    (first ++ second).entries template = first.entries template ++ second.entries template := by
  simp [entries, List.filterMap_append]

end Index

end DocumentSchema
