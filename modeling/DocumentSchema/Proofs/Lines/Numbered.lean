import DocumentSchema.Lines.Reader
import Mathlib.Data.List.Perm.Basic

/-!
# Numbered lines

The lines of stores that are not blank are numbered across all stores, and each is the text of a
document or malformed. `numberedFrom` is that list with nothing read yet. What there is to read of a
store is what its numbered lines are, in order, so anything that goes through the items of stores
can be described by the list alone.
-/

namespace DocumentSchema

/-- A line with its number and the name of its store. -/
structure NumberedLine where
  number : Nat
  store : String
  octets : Octets

namespace NumberedLine

def document? (line : NumberedLine) : Option Document :=
  (parseLine? line.octets).map fun contents ↦ ⟨line.number, line.store, contents⟩

/-- The message that the line is not the text of a document. -/
def message (line : NumberedLine) : Message := Message.malformed line.number line.store

def item (line : NumberedLine) : Item := Item.ofLine line.store line.number line.octets

theorem item_of_document {line : NumberedLine} {document : Document}
    (h : line.document? = some document) : line.item = .document document := by
  obtain ⟨contents, hparse, rfl⟩ := Option.map_eq_some_iff.mp h
  rw [item, Item.ofLine, hparse]

theorem item_of_malformed {line : NumberedLine} (h : line.document? = none) :
    line.item = .malformed line.message := by
  rw [item, Item.ofLine, Option.map_eq_none_iff.mp h]
  rfl

theorem number_of_document {line : NumberedLine} {document : Document}
    (h : line.document? = some document) : document.number = line.number := by
  obtain ⟨contents, -, rfl⟩ := Option.map_eq_some_iff.mp h
  rfl

end NumberedLine

/-- The lines of stores, numbered from a number on. -/
def numberedFrom (first : Nat) (stores : List Store) : List NumberedLine :=
  ((stores.flatMap fun store ↦ store.lines.map fun octets ↦ (store.name, octets)).zipIdx first).map
    fun ((store, octets), number) ↦ ⟨number, store, octets⟩

def documentsOf (lines : List NumberedLine) : List Document :=
  lines.filterMap NumberedLine.document?

def malformedOf (lines : List NumberedLine) : List NumberedLine :=
  lines.filter fun line ↦ line.document?.isNone

/-- The lines of a store come first, and the numbers go on in the next. -/
theorem map_item_numberedFrom_cons (first : Nat) (store : Store) (rest : List Store) :
    (numberedFrom first (store :: rest)).map NumberedLine.item
      = Item.ofLines store.name first store.lines ++
        (numberedFrom (first + store.lines.length) rest).map NumberedLine.item := by
  rw [numberedFrom, List.flatMap_cons, List.zipIdx_append, List.map_append, List.map_append,
    List.length_map]
  congr 1
  rw [List.zipIdx_map, List.map_map, List.map_map]
  rfl

theorem map_number_numberedFrom (first : Nat) (stores : List Store) :
    (numberedFrom first stores).map (·.number)
      = List.range' first (stores.flatMap Store.lines).length := by
  have hlength : (stores.flatMap fun store ↦
      store.lines.map fun octets ↦ (store.name, octets)).length
        = (stores.flatMap Store.lines).length := by
    simp [List.length_flatMap]
  rw [numberedFrom, List.map_map, ← hlength, ← List.zipIdx_map_snd]
  rfl

/-- **Each line is the text of one document or malformed.** -/
theorem map_number_documentsOf_append_malformedOf (lines : List NumberedLine) :
    ((documentsOf lines).map (·.number) ++ (malformedOf lines).map (·.number)).Perm
      (lines.map (·.number)) := by
  induction lines with
  | nil => exact .nil
  | cons line rest ih =>
    rw [documentsOf, malformedOf, List.filterMap_cons, List.filter_cons, List.map_cons]
    cases hdocument : line.document? with
    | none => exact List.perm_middle.trans (ih.cons _)
    | some document =>
      rw [← NumberedLine.number_of_document hdocument]
      exact ih.cons _

end DocumentSchema
