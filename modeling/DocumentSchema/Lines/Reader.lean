import DocumentSchema.Json.Reader
import DocumentSchema.Lines.Store
import DocumentSchema.Message
import DocumentSchema.Path

/-!
# Documents in lines

A store holds one document on each line. Lines that are blank are passed over; all others are
numbered from one on, across all stores of a source. A line that is not the text of a value takes
its number and becomes a message instead of a document. Stores are never joined: the last line of a
store ends with the store. Of a store that is not complete the last line is not known to be whole,
so reading fails before it.

What there is to read of a store that is open is a list of items. A pass goes through a source turn
by turn and reads no further than it has to: it stops when it has as many documents as were asked
for, before it looks at another line or opens another store.
-/

namespace DocumentSchema

/-! ## Lines -/

/-- The octet that ends a line. -/
def lineFeed : UInt8 := 10

/-- The octet is a blank of a line: a blank, a tab, a line feed, a form feed or a carriage return.
-/
def isBlankOctet (octet : UInt8) : Bool :=
  octet = 32 || octet = 9 || octet = 10 || octet = 12 || octet = 13

/-- The line holds nothing but blanks. -/
def isBlankLine (line : Octets) : Bool := line.all isBlankOctet

/-- The lines of a store, without those that are blank. What stands after the last line feed is a
line if the store is complete. -/
def Store.lines (store : Store) : List Octets :=
  let all := pieces lineFeed store.octets
  (if store.complete then all else all.dropLast).filter fun line ↦ !isBlankLine line

/-! ## Items -/

/-- A document with its number and the name of its store. -/
structure Document where
  number : Nat
  store : String
  contents : Json

/-- What comes up when a source is read. -/
inductive Item where
  | document (document : Document)
  | malformed (message : Message)
  | failure (failure : Failure)

/-- The message that a line is not the text of a value. -/
def Message.malformed (number : Nat) (store : String) : Message :=
  (((Message.new Message.Kind.malformedJson Path.root).withContext "document_number"
    (.ofNat number)).withContext "store" (.string store)).withContext "extra"
      (.string "not the text of a value")

/-- The value whose text a line is. -/
def parseLine? (line : Octets) : Option Json := (decodeText? line).bind Json.parse?

/-- What a numbered line is. -/
def Item.ofLine (store : String) (number : Nat) (line : Octets) : Item :=
  match parseLine? line with
  | some contents => .document ⟨number, store, contents⟩
  | none => .malformed (Message.malformed number store)

/-- The items of lines that are numbered from a number on. -/
def Item.ofLines (store : String) (first : Nat) (lines : List Octets) : List Item :=
  (lines.zipIdx first).map fun (line, number) ↦ Item.ofLine store number line

/-- The items of a store whose lines are numbered from a number on. -/
def Store.items (store : Store) (first : Nat) : List Item :=
  Item.ofLines store.name first store.lines ++
    if store.complete then [] else [.failure (.io s!"failed to read '{store.name}'")]

/-- The items of a store that is still to be opened, and the number of the next line. -/
def StoreRef.items (files : FileSystem) (store : StoreRef) (first : Nat) : List Item × Nat :=
  match store.open files with
  | .error failure => ([.failure failure], first)
  | .ok store => (store.items first, first + store.lines.length)

/-! ## Reading on -/

/-- The line at the front of octets, and what follows its line feed, if there is one. -/
def cutLine : Octets → Octets × Option Octets
  | [] => ([], none)
  | octet :: rest =>
    if octet = lineFeed then ([], some rest)
    else
      let (line, after) := cutLine rest
      (octet :: line, after)

theorem eq_of_cutLine_some {octets line rest : Octets} (h : cutLine octets = (line, some rest)) :
    octets = line ++ lineFeed :: rest ∧ lineFeed ∉ line := by
  induction octets generalizing line with
  | nil => cases h
  | cons octet more ih =>
    rw [cutLine] at h
    split at h
    · rename_i hfeed
      obtain ⟨rfl, hrest⟩ := Prod.mk.inj h
      obtain rfl := Option.some.inj hrest
      exact ⟨by rw [hfeed, List.nil_append], List.not_mem_nil⟩
    · rename_i hne
      obtain ⟨rfl, hafter⟩ := Prod.mk.inj h
      obtain ⟨hmore, hline⟩ := ih (Prod.ext rfl hafter)
      refine ⟨congrArg _ hmore, ?_⟩
      rw [List.mem_cons, not_or]
      exact ⟨Ne.symm hne, hline⟩

theorem eq_of_cutLine_none {octets line : Octets} (h : cutLine octets = (line, none)) :
    octets = line ∧ lineFeed ∉ line := by
  induction octets generalizing line with
  | nil =>
    obtain ⟨rfl, -⟩ := Prod.mk.inj h
    exact ⟨rfl, List.not_mem_nil⟩
  | cons octet more ih =>
    rw [cutLine] at h
    split at h
    · cases h
    · rename_i hne
      obtain ⟨rfl, hafter⟩ := Prod.mk.inj h
      obtain ⟨hmore, hline⟩ := ih (Prod.ext rfl hafter)
      refine ⟨congrArg _ hmore, ?_⟩
      rw [List.mem_cons, not_or]
      exact ⟨Ne.symm hne, hline⟩

/-- The next line of a store and what comes after it, if the store is not at its end. The line at
the end of a store that is not complete cannot be read. -/
def Store.readLine? (store : Store) : Except Failure (Option (Octets × Octets)) :=
  match cutLine store.octets with
  | (line, some rest) => .ok (some (line, rest))
  | (line, none) =>
    if !store.complete then .error (.io s!"failed to read '{store.name}'")
    else if line = [] then .ok none
    else .ok (some (line, []))

/-- Reading a line leaves less of a store. -/
theorem Store.length_lt_of_readLine? {store : Store} {line rest : Octets}
    (h : store.readLine? = .ok (some (line, rest))) : rest.length < store.octets.length := by
  rw [readLine?] at h
  split at h
  · rename_i hcut
    obtain ⟨rfl, rfl⟩ := Prod.mk.inj (Option.some.inj (Except.ok.inj h))
    rw [(eq_of_cutLine_some hcut).1, List.length_append, List.length_cons]
    omega
  · rename_i hcut
    split at h
    · cases h
    · split at h
      · cases h
      · rename_i hne
        obtain ⟨rfl, rfl⟩ := Prod.mk.inj (Option.some.inj (Except.ok.inj h))
        rw [(eq_of_cutLine_none hcut).1]
        exact List.length_pos_iff.mpr hne

/-! ## Passes -/

/-- Why a pass stopped. -/
inductive PassEnd where
  /-- There were as many documents as were asked for. -/
  | limit
  /-- There was nothing left. -/
  | exhausted
  | failed (failure : Failure)

/-- How far a pass has come: the stores that are still to be opened, the store that is open with
what is unread of it, the number of the next line, the documents of the pass, and the messages of
the reader. -/
structure Progress where
  waiting : List StoreRef
  current : Option Store := none
  number : Nat := 1
  documents : List Document := []
  messages : List Message := []

namespace Progress

/-- A line is passed over if it is blank. Otherwise it takes a number and becomes a document or a
message. -/
def add (progress : Progress) (store : String) (line : Octets) : Progress :=
  if isBlankLine line then progress
  else match parseLine? line with
    | some contents =>
      { progress with
        number := progress.number + 1
        documents := progress.documents ++ [⟨progress.number, store, contents⟩] }
    | none =>
      { progress with
        number := progress.number + 1
        messages := progress.messages ++ [Message.malformed progress.number store] }

/-- One turn of a pass: the next store is opened, or the open store is at its end, or its next line
is read. A pass that has as many documents as were asked for does not look for another. -/
def turn (files : FileSystem) (limit : Option Nat) (progress : Progress) :
    Except PassEnd Progress :=
  if limit = some progress.documents.length then .error .limit
  else match progress.current with
    | none =>
      match progress.waiting with
      | [] => .error .exhausted
      | store :: rest =>
        match store.open files with
        | .error failure => .error (.failed failure)
        | .ok store => .ok { progress with waiting := rest, current := some store }
    | some store =>
      match store.readLine? with
      | .error failure => .error (.failed failure)
      | .ok none => .ok { progress with current := none }
      | .ok (some (line, rest)) =>
        .ok ({ progress with current := some { store with octets := rest } }.add store.name line)

/-! ### Turns come to an end -/

/-- What is left of the open store, its end included. -/
def unread (progress : Progress) : Nat :=
  match progress.current with
  | none => 0
  | some store => store.octets.length + 1

@[simp] theorem waiting_add (progress : Progress) (store : String) (line : Octets) :
    (progress.add store line).waiting = progress.waiting := by
  rw [add]
  split
  · rfl
  · split <;> rfl

@[simp] theorem current_add (progress : Progress) (store : String) (line : Octets) :
    (progress.add store line).current = progress.current := by
  rw [add]
  split
  · rfl
  · split <;> rfl

/-- A turn leaves fewer stores, or less of the store that is open. -/
theorem lt_of_turn {files : FileSystem} {limit : Option Nat} {progress next : Progress}
    (h : progress.turn files limit = .ok next) :
    Prod.Lex (· < ·) (· < ·) (next.waiting.length, next.unread)
      (progress.waiting.length, progress.unread) := by
  rw [turn] at h
  split at h
  · cases h
  · split at h
    · split at h
      · cases h
      · rename_i hwaiting
        split at h
        · cases h
        · obtain rfl := Except.ok.inj h
          rw [hwaiting]
          exact Prod.Lex.left _ _ (Nat.lt_succ_self _)
    · rename_i store hcurrent
      split at h
      · cases h
      · obtain rfl := Except.ok.inj h
        refine Prod.Lex.right _ ?_
        rw [unread, unread, hcurrent]
        exact Nat.succ_pos _
      · rename_i hread
        obtain rfl := Except.ok.inj h
        rw [waiting_add, unread, unread, current_add, hcurrent]
        exact Prod.Lex.right _ (Nat.succ_lt_succ (Store.length_lt_of_readLine? hread))

/-- The pass goes on until it stops. -/
def finish (files : FileSystem) (limit : Option Nat) (progress : Progress) :
    Progress × PassEnd :=
  match _ : progress.turn files limit with
  | .error stop => (progress, stop)
  | .ok next => next.finish files limit
termination_by (progress.waiting.length, progress.unread)
decreasing_by exact lt_of_turn ‹_›

end Progress

/-- The documents of a pass, and why it stopped. -/
structure Pass where
  documents : List Document := []
  stop : PassEnd

/-! ## Readers -/

/-- A reader of a source. Messages of all passes are collected until they are taken. -/
structure Reader where
  source : Source
  messages : List Message := []

namespace Reader

/-- The beginning of a pass. -/
def start (reader : Reader) (files : FileSystem) : Progress :=
  { waiting := reader.source.stores files, messages := reader.messages }

/-- A new pass over the source from its beginning. -/
def read (reader : Reader) (files : FileSystem) (limit : Option Nat) : Reader × Pass :=
  let (last, stop) := (reader.start files).finish files limit
  ({ reader with messages := last.messages }, { documents := last.documents, stop })

/-- The messages collected, which are then forgotten. -/
def take (reader : Reader) : Reader × List Message :=
  ({ reader with messages := [] }, reader.messages)

end Reader

end DocumentSchema
