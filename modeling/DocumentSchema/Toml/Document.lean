import DocumentSchema.Toml.Scalar

/-!
# TOML documents

A document is a sequence of statements: keys with values, headers of tables, and headers of
elements of a list of tables. The tree they build remembers how each table came about, because that
decides what may still be added to it: a table with a header of its own is closed to dotted keys and
to a second header; a table that a longer header implied may still get its own; a table that dotted
keys made grows by dotted keys of the same statement group only. Inline tables obey the same rules
among their own keys and are closed afterwards.

Entries keep the order in which they were first written. A table whose header comes after headers
below it moves to the place of its own header.
-/

namespace DocumentSchema.Toml

/-! ## The tree under construction -/

/-- How a table came about. -/
inductive TableStyle where
  | header
  | implied
  | dotted
  deriving DecidableEq

/-- A node of the tree under construction. The elements of a list of tables are in reverse, so the
one that headers still refer to is in front. -/
inductive Node where
  | value (value : Toml)
  | table (style : TableStyle) (entries : List (String × Node))
  | tables (elements : List (List (String × Node)))

/-- The entries of a table under construction. -/
abbrev Nodes := Entries String Node

mutual

/-- The finished value of a node. -/
def Node.finish : Node → Toml
  | .value value => value
  | .table _ entries => .table (finishEntries entries)
  | .tables elements => .array (finishElements elements).reverse

/-- The finished values of entries. -/
def finishEntries : List (String × Node) → List (String × Toml)
  | [] => []
  | (key, node) :: rest => (key, node.finish) :: finishEntries rest

/-- The finished elements of a list of tables. -/
def finishElements : List (List (String × Node)) → List Toml
  | [] => []
  | entries :: rest => .table (finishEntries entries) :: finishElements rest

end

/-- The table that a path leads to, changed. A missing table on the way is made in the given style;
a list of tables leads on to its last element. Dotted keys do not enter a table with a header. -/
private def changeAt (dotted : Bool) (change : TableStyle → Nodes → Option Nodes) :
    List String → TableStyle → Nodes → Option Nodes
  | [], style, entries => change style entries
  | key :: path, _, entries =>
    match entries.lookup key with
    | none => do
      let style := if dotted then .dotted else .implied
      return entries.insert key (.table style (← changeAt dotted change path style []))
    | some (.value _) => none
    | some (.table style inner) =>
      if dotted && style = .header then none
      else do
        return entries.insert key (.table style (← changeAt dotted change path style inner))
    | some (.tables []) => none
    | some (.tables (last :: elements)) => do
      return entries.insert key
        (.tables ((← changeAt dotted change path .header last) :: elements))

/-- A value under a dotted key. The last table on the way must have come about by dotted keys, and
the key must be new. -/
private def insertValue (style : TableStyle) (entries : Nodes) (path : List String)
    (key : String) (value : Toml) : Option Nodes :=
  changeAt true
    (fun style inner ↦
      if (style == .dotted) == path.isEmpty then none
      else if (inner.lookup key).isSome then none
      else some (inner ++ [(key, .value value)]))
    path style entries

/-! ## Values -/

/-- A key split into the path to its table and its last part. -/
private def splitKey (parts : List String) : List String × String :=
  (parts.dropLast, parts.getLastD "")

/-- The table of an inline table's entries. -/
private def inlineTable (pairs : List (List String × Toml)) : Option Toml := do
  let entries ← pairs.foldlM (fun entries (parts, value) ↦
    let (path, key) := splitKey parts
    insertValue .header entries path key value) []
  return .table (finishEntries entries)

mutual

/-- A value, with a bound on the nesting that is left. -/
private def readValue (fuel depth : Nat) (text : List Char) : Option (Toml × List Char) :=
  match fuel with
  | 0 => none
  | fuel + 1 =>
    match text with
    | '[' :: rest => if depth ≤ 1 then none else readItems fuel (depth - 1) [] rest
    | '\x7b' :: rest => if depth ≤ 1 then none else readPairs fuel (depth - 1) [] rest
    | text => readScalar text

/-- The items of a list up to its closing bracket, with blanks, comments and line breaks around
them; a comma may follow the last. -/
private def readItems (fuel depth : Nat) (done : List Toml) (text : List Char) :
    Option (Toml × List Char) :=
  match fuel with
  | 0 => none
  | fuel + 1 =>
    match skipLines text.length text with
    | ']' :: rest => some (.array done.reverse, rest)
    | text => do
      let (item, rest) ← readValue fuel depth text
      match skipLines rest.length rest with
      | ',' :: rest => readItems fuel depth (item :: done) rest
      | ']' :: rest => return (.array (item :: done).reverse, rest)
      | _ => none

/-- The entries of an inline table up to its closing brace, all on one line; no comma may follow the
last. -/
private def readPairs (fuel depth : Nat) (done : List (List String × Toml)) (text : List Char) :
    Option (Toml × List Char) :=
  match fuel with
  | 0 => none
  | fuel + 1 =>
    match done, skipInline text with
    | [], '\x7d' :: rest => some (.table [], rest)
    | done, text => do
      let (parts, rest) ← readKey text
      match rest with
      | '=' :: rest =>
        let (value, rest) ← readValue fuel depth (skipInline rest)
        let done := (parts, value) :: done
        match skipInline rest with
        | ',' :: rest => readPairs fuel depth done rest
        | '\x7d' :: rest => return (← inlineTable done.reverse, rest)
        | _ => none
      | _ => none

end

/-! ## Statements -/

/-- A statement of a document. -/
inductive Statement where
  | entry (parts : List String) (value : Toml)
  | table (path : List String)
  | element (path : List String)

private def readStatement (text : List Char) : Option (Statement × List Char) :=
  match text with
  | '[' :: '[' :: rest => do
    match ← readKey rest with
    | (path, ']' :: ']' :: rest) => return (.element path, ← endOfLine? rest)
    | _ => none
  | '[' :: rest => do
    match ← readKey rest with
    | (path, ']' :: rest) => return (.table path, ← endOfLine? rest)
    | _ => none
  | text => do
    match ← readKey text with
    | (parts, '=' :: rest) =>
      let text := skipInline rest
      let (value, rest) ← readValue (2 * text.length + 2) nestingLimit text
      return (.entry parts value, ← endOfLine? rest)
    | _ => none

private def readStatements : Nat → List Statement → List Char → Option (List Statement)
  | 0, _, _ => none
  | fuel + 1, done, text =>
    match skipInline text with
    | [] => some done.reverse
    | '#' :: rest => do readStatements fuel done (← endOfLine? ('#' :: rest))
    | rest =>
      match lineBreak? rest with
      | some rest => readStatements fuel done rest
      | none => do
        let (statement, rest) ← readStatement rest
        readStatements fuel (statement :: done) rest

/-! ## Documents -/

/-- The tree so far: the finished part, and the table that entries go to, with its path and whether
it is an element of a list. -/
private structure Draft where
  root : Nodes
  path : List String
  isElement : Bool
  current : Nodes

/-- The current table put into the finished part. -/
private def Draft.finish (draft : Draft) : Option Nodes :=
  if draft.path.isEmpty then some draft.current
  else
    let (path, key) := splitKey draft.path
    changeAt false
      (fun _ entries ↦
        match entries.lookup key with
        | none =>
          some (entries ++
            [(key, if draft.isElement then .tables [draft.current]
              else .table .header draft.current)])
        | some (.tables elements) =>
          if draft.isElement then some (entries.insert key (.tables (draft.current :: elements)))
          else none
        | some _ => none)
      path .header draft.root

/-- The entries of the table that a path leads to. -/
private def entriesAt : List String → Nodes → Nodes
  | [], entries => entries
  | key :: path, entries =>
    match entries.lookup key with
    | some (.table _ inner) => entriesAt path inner
    | some (.tables (last :: _)) => entriesAt path last
    | _ => []

/-- A table header. A table that was only implied keeps its entries and moves to the end. -/
private def openTable (root : Nodes) (parts : List String) : Option Draft := do
  let (path, key) := splitKey parts
  let root ← changeAt false (fun _ entries ↦ some entries) path .header root
  match (entriesAt path root).lookup key with
  | none => return ⟨root, parts, false, []⟩
  | some (.table .implied inner) =>
    let without (entries : Nodes) : Nodes := entries.filter (·.1 ≠ key)
    return ⟨← changeAt false (fun _ entries ↦ some (without entries)) path .header root, parts,
      false, inner⟩
  | some _ => none

/-- A header of an element of a list of tables. The list is made if there is none. -/
private def openElement (root : Nodes) (parts : List String) : Option Draft := do
  let (path, key) := splitKey parts
  let root ← changeAt false
    (fun _ entries ↦
      match entries.lookup key with
      | none => some (entries ++ [(key, .tables [])])
      | some (.tables _) => some entries
      | some _ => none)
    path .header root
  return ⟨root, parts, true, []⟩

private def Draft.apply (draft : Draft) : Statement → Option Draft
  | .entry parts value => do
    let (path, key) := splitKey parts
    return { draft with current := ← insertValue .header draft.current path key value }
  | .table parts => do openTable (← draft.finish) parts
  | .element parts => do openElement (← draft.finish) parts

/-- The entries of a document's top table. A byte order mark may stand in front. -/
def parse? (text : String) : Option (List (String × Toml)) := do
  let chars := match text.toList with
    | '\uFEFF' :: rest => rest
    | chars => chars
  let statements ← readStatements (chars.length + 1) [] chars
  let draft ← statements.foldlM Draft.apply ⟨[], [], false, []⟩
  return finishEntries (← draft.finish)

end DocumentSchema.Toml
