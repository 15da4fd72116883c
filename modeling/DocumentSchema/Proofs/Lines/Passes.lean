import DocumentSchema.Proofs.Lines.Numbered

/-!
# Passes

What a pass has still to come to is a list of items, told from where it stands: the rest of the open
store and the stores that wait. A turn either leaves that list as it is or takes the first item off
it. So at every moment what was ahead at the beginning is what the pass has taken, followed by what
is ahead of it now, whichever way the turns went, over blank lines and the ends of stores.

Nothing of this depends on where the stores come from. In memory every store can be opened and read
to its end, and what is ahead of a pass at its beginning are the numbered lines of all stores.
-/

namespace DocumentSchema

/-! ## The lines of octets -/

/-- The lines of octets, without their line feeds. What stands after the last line feed is a line,
and nothing is none. -/
def linesOf : Octets → List Octets
  | [] => []
  | octet :: rest =>
    if octet = lineFeed then [] :: linesOf rest
    else match linesOf rest with
      | [] => [[octet]]
      | line :: more => (octet :: line) :: more

example : linesOf [49, 10, 10, 50, 10] = [[49], [], [50]] := rfl

/-- The pieces are the lines, but a line feed at the end leaves one more piece, which is empty. -/
theorem pieces_lineFeed (octets : Octets) :
    pieces lineFeed octets = linesOf octets ++ [[]] ∨
      pieces lineFeed octets = linesOf octets ∧ linesOf octets ≠ [] := by
  induction octets with
  | nil => exact Or.inl rfl
  | cons octet rest ih =>
    rw [pieces, linesOf]
    split
    · rcases ih with hrest | ⟨hrest, -⟩
      · exact Or.inl (congrArg _ hrest)
      · exact Or.inr ⟨congrArg _ hrest, List.cons_ne_nil _ _⟩
    · rcases hlines : linesOf rest with _ | ⟨line, more⟩
      · rcases ih with hrest | ⟨-, hne⟩
        · rw [hrest, hlines]
          exact Or.inr ⟨rfl, List.cons_ne_nil _ _⟩
        · exact absurd hlines hne
      · rcases ih with hrest | ⟨hrest, -⟩
        · rw [hrest, hlines]
          exact Or.inl rfl
        · rw [hrest, hlines]
          exact Or.inr ⟨rfl, List.cons_ne_nil _ _⟩

theorem Store.lines_eq {store : Store} (h : store.complete = true) :
    store.lines = (linesOf store.octets).filter fun line ↦ !isBlankLine line := by
  rw [lines, h, if_pos rfl]
  rcases pieces_lineFeed store.octets with hpieces | ⟨hpieces, -⟩
  · rw [hpieces, List.filter_append]
    exact List.append_nil _
  · rw [hpieces]

/-- The lines of named octets that are not blank, numbered from one on across all of them. -/
def numberedLines (stores : List (String × Octets)) : List NumberedLine :=
  ((stores.flatMap fun (name, octets) ↦
    ((linesOf octets).filter fun line ↦ !isBlankLine line).map fun line ↦
      (name, line)).zipIdx 1).map fun ((store, octets), number) ↦ ⟨number, store, octets⟩

theorem numberedLines_eq (stores : List (String × Octets)) :
    numberedLines stores = numberedFrom 1 (stores.map fun (name, octets) ↦ { name, octets }) := by
  rw [numberedLines, numberedFrom, List.flatMap_map]
  congr 3
  funext store
  rcases store with ⟨name, octets⟩
  rw [Store.lines_eq rfl]

/-! ## Reading a store on -/

namespace Store

variable {store : Store} {line rest : Octets} {failure : Failure}

/-- The line that is read comes first, unless it is blank. -/
theorem lines_of_readLine? (h : store.readLine? = .ok (some (line, rest))) :
    store.lines = (if isBlankLine line then [] else [line]) ++
      { store with octets := rest }.lines := by
  have hfilter (all : List Octets) : (line :: all).filter (fun line ↦ !isBlankLine line)
      = (if isBlankLine line then [] else [line]) ++ all.filter fun line ↦ !isBlankLine line := by
    rw [List.filter_cons]
    rcases isBlankLine line <;> rfl
  rw [readLine?] at h
  split at h
  · rename_i hcut
    obtain ⟨rfl, rfl⟩ := Prod.mk.inj (Option.some.inj (Except.ok.inj h))
    obtain ⟨hoctets, hline⟩ := eq_of_cutLine_some hcut
    rw [lines, lines, hoctets, pieces_append_separator hline]
    split
    · exact hfilter _
    · rw [List.dropLast_cons_of_ne_nil (pieces_ne_nil _ _)]
      exact hfilter _
  · rename_i hcut
    obtain ⟨hoctets, hline⟩ := eq_of_cutLine_none hcut
    split at h
    · cases h
    · rename_i hcomplete
      rw [Bool.not_eq_true', Bool.not_eq_false] at hcomplete
      split at h
      · cases h
      · obtain ⟨rfl, rfl⟩ := Prod.mk.inj (Option.some.inj (Except.ok.inj h))
        rw [lines, lines, hoctets, pieces_of_notMem hline, if_pos hcomplete, if_pos hcomplete]
        exact hfilter _

theorem lines_of_readLine?_none (h : store.readLine? = .ok none) :
    store.complete = true ∧ store.lines = [] := by
  rw [readLine?] at h
  split at h
  · cases h
  · rename_i hcut
    obtain ⟨hoctets, hline⟩ := eq_of_cutLine_none hcut
    split at h
    · cases h
    · rename_i hcomplete
      rw [Bool.not_eq_true', Bool.not_eq_false] at hcomplete
      split at h
      · rename_i hempty
        refine ⟨hcomplete, ?_⟩
        rw [lines, hoctets, hempty, if_pos hcomplete]
        rfl
      · cases h

theorem items_of_readLine?_error (h : store.readLine? = .error failure) (first : Nat) :
    store.items first = [.failure failure] := by
  rw [readLine?] at h
  split at h
  · cases h
  · rename_i hcut
    obtain ⟨hoctets, hline⟩ := eq_of_cutLine_none hcut
    split at h
    · rename_i hcomplete
      rw [Bool.not_eq_true'] at hcomplete
      rw [items, lines, hcomplete, hoctets, pieces_of_notMem hline, ← Except.error.inj h]
      rfl
    · split at h <;> cases h

end Store

/-! ## Items that are taken -/

def Item.document? : Item → Option Document
  | document found => some found
  | _ => none

def Item.message? : Item → Option Message
  | malformed found => some found
  | _ => none

namespace Progress

/-- The pass has taken these items since. -/
structure Takes (progress next : Progress) (items : List Item) : Prop where
  number : next.number = progress.number + items.length
  documents : next.documents = progress.documents ++ items.filterMap Item.document?
  messages : next.messages = progress.messages ++ items.filterMap Item.message?

variable {progress next last : Progress} {items more : List Item}

theorem Takes.nil (hnumber : next.number = progress.number)
    (hdocuments : next.documents = progress.documents)
    (hmessages : next.messages = progress.messages) : Takes progress next [] where
  number := hnumber
  documents := by rw [hdocuments, List.filterMap_nil, List.append_nil]
  messages := by rw [hmessages, List.filterMap_nil, List.append_nil]

theorem Takes.append (h : Takes progress next items) (hmore : Takes next last more) :
    Takes progress last (items ++ more) where
  number := by rw [hmore.number, h.number, List.length_append, Nat.add_assoc]
  documents := by rw [hmore.documents, h.documents, List.filterMap_append, List.append_assoc]
  messages := by rw [hmore.messages, h.messages, List.filterMap_append, List.append_assoc]

theorem takes_add (progress : Progress) (store : String) (line : Octets) :
    Takes progress (progress.add store line)
      (if isBlankLine line then [] else [Item.ofLine store progress.number line]) := by
  rw [add, Item.ofLine]
  split
  · exact .nil rfl rfl rfl
  · rcases parseLine? line with _ | contents
    · exact ⟨rfl, (List.append_nil _).symm, rfl⟩
    · exact ⟨rfl, rfl, (List.append_nil _).symm⟩

end Progress

/-! ## What is ahead of a pass -/

/-- The items of stores whose lines are numbered from a number on. -/
def itemsFrom (files : FileSystem) : Nat → List StoreRef → List Item
  | _, [] => []
  | first, store :: rest =>
    let (items, next) := store.items files first
    items ++ itemsFrom files next rest

/-- The items that a pass has still to come to: those of the open store, and those of the stores
that wait. -/
def Progress.ahead (files : FileSystem) (progress : Progress) : List Item :=
  match progress.current with
  | none => itemsFrom files progress.number progress.waiting
  | some store => store.items progress.number ++
    itemsFrom files (progress.number + store.lines.length) progress.waiting

namespace Progress

variable {files : FileSystem} {limit : Option Nat} {progress next last : Progress} {stop : PassEnd}

/-- **A turn takes the next item, or none.** -/
theorem exists_takes_of_turn (h : progress.turn files limit = .ok next) :
    ∃ items, items.length ≤ 1 ∧ Takes progress next items ∧
      progress.ahead files = items ++ next.ahead files := by
  rw [turn] at h
  split at h
  · cases h
  · split at h
    · rename_i hcurrent
      split at h
      · cases h
      · rename_i hwaiting
        split at h
        · cases h
        · rename_i store hopen
          obtain rfl := Except.ok.inj h
          refine ⟨[], Nat.zero_le 1, .nil rfl rfl rfl, ?_⟩
          rw [ahead, hcurrent, hwaiting]
          rw [itemsFrom, StoreRef.items, hopen]
          rfl
    · rename_i store hcurrent
      split at h
      · cases h
      · rename_i hread
        obtain rfl := Except.ok.inj h
        obtain ⟨hcomplete, hlines⟩ := Store.lines_of_readLine?_none hread
        refine ⟨[], Nat.zero_le 1, .nil rfl rfl rfl, ?_⟩
        rw [ahead, hcurrent]
        simp only [Store.items, hlines, hcomplete]
        rfl
      · rename_i line rest hread
        obtain rfl := Except.ok.inj h
        have htakes := takes_add { progress with current := some { store with octets := rest } }
          store.name line
        refine ⟨_, ?_, ⟨htakes.number, htakes.documents, htakes.messages⟩, ?_⟩
        · split
          · exact Nat.zero_le 1
          · exact Nat.le_refl 1
        · rw [ahead, ahead, current_add, waiting_add, htakes.number, hcurrent]
          have hlines := Store.lines_of_readLine? hread
          simp only [Store.items, hlines]
          split
          · rfl
          · simp only [Item.ofLines, List.zipIdx_cons, List.map_cons,
              List.length_cons, List.length_nil, List.cons_append, List.nil_append,
              List.append_assoc, Nat.add_assoc, Nat.add_comm 1]

/-- The pass has reason to stop: it has as many documents as were asked for, or nothing is ahead of
it, or a failure is. -/
def HasReason (files : FileSystem) (limit : Option Nat) (progress : Progress) : PassEnd → Prop
  | .limit => limit = some progress.documents.length
  | .exhausted => progress.ahead files = []
  | .failed failure => ∃ rest, progress.ahead files = .failure failure :: rest

theorem hasReason_of_stop (h : progress.turn files limit = .error stop) :
    progress.HasReason files limit stop := by
  rw [turn] at h
  split at h
  · rename_i hlimit
    obtain rfl := Except.error.inj h
    exact hlimit
  · split at h
    · rename_i hcurrent
      split at h
      · rename_i hwaiting
        obtain rfl := Except.error.inj h
        simp only [HasReason, ahead, hcurrent, hwaiting, itemsFrom]
      · rename_i store rest hwaiting
        split at h
        · rename_i failure hopen
          obtain rfl := Except.error.inj h
          simp only [HasReason, ahead, hcurrent, hwaiting, itemsFrom, StoreRef.items, hopen]
          exact ⟨_, rfl⟩
        · cases h
    · rename_i store hcurrent
      split at h
      · rename_i failure hread
        obtain rfl := Except.error.inj h
        simp only [HasReason, ahead, hcurrent, Store.items_of_readLine?_error hread]
        exact ⟨_, rfl⟩
      · cases h
      · cases h

/-- A pass that stands at one place comes to another by some number of turns. -/
inductive Leads (files : FileSystem) (limit : Option Nat) (progress : Progress) : Progress → Prop
  | here : Leads files limit progress progress
  | turn {next last : Progress} : Leads files limit progress next →
      next.turn files limit = .ok last → Leads files limit progress last

theorem Leads.cons (hturn : progress.turn files limit = .ok next)
    (h : Leads files limit next last) : Leads files limit progress last := by
  induction h with
  | here => exact .turn .here hturn
  | turn _ hlast ih => exact .turn ih hlast

theorem leads_finish (files : FileSystem) (limit : Option Nat) (progress : Progress) :
    Leads files limit progress (progress.finish files limit).1 ∧
      (progress.finish files limit).1.turn files limit
        = .error (progress.finish files limit).2 := by
  fun_induction finish files limit progress with
  | case1 progress stop hstop => exact ⟨.here, hstop⟩
  | case2 progress next hturn ih => exact ⟨.cons hturn ih.1, ih.2⟩

theorem finish_of_leads (h : Leads files limit progress last) :
    last.finish files limit = progress.finish files limit := by
  induction h with
  | here => rfl
  | @turn next last _ hturn ih =>
    rw [← ih, finish.eq_def files limit next]
    split
    · rename_i hstop
      rw [hstop] at hturn
      cases hturn
    · rename_i after hafter
      rw [hafter] at hturn
      rw [Except.ok.inj hturn]

/-- **At every moment of a pass, what was ahead of it is what it has taken and what is ahead of it
now**, and before the last of these items it had not as many documents as were asked for. -/
theorem exists_takes_of_leads (h : Leads files limit progress last) :
    ∃ items, Takes progress last items ∧ progress.ahead files = items ++ last.ahead files ∧
      ∀ count < items.length, limit ≠ some (progress.documents ++
        (items.take count).filterMap Item.document?).length := by
  induction h with
  | here => exact ⟨[], .nil rfl rfl rfl, rfl, fun _ hcount ↦ nomatch hcount⟩
  | @turn next last _ hturn ih =>
    obtain ⟨before, hbefore, hahead, hshort⟩ := ih
    obtain ⟨items, hlength, htakes, hnext⟩ := exists_takes_of_turn hturn
    refine ⟨before ++ items, hbefore.append htakes, ?_, fun count hcount ↦ ?_⟩
    · rw [hahead, hnext, List.append_assoc]
    · rw [List.length_append] at hcount
      by_cases hearlier : count < before.length
      · rw [List.take_append_of_le_length (Nat.le_of_lt hearlier)]
        exact hshort count hearlier
      · -- The turn was taken, so the limit was not reached where it began.
        obtain rfl : count = before.length := by omega
        rw [List.take_left, ← hbefore.documents]
        intro hlimit
        rw [Progress.turn, if_pos hlimit] at hturn
        cases hturn

end Progress

/-! ## The lines of a pass -/

theorem NumberedLine.item_ne_failure (line : NumberedLine) (failure : Failure) :
    line.item ≠ .failure failure := by
  rcases hdocument : line.document? with _ | document
  · rw [item_of_malformed hdocument]
    exact (nomatch ·)
  · rw [item_of_document hdocument]
    exact (nomatch ·)

def messagesOf (lines : List NumberedLine) : List Message :=
  (malformedOf lines).map NumberedLine.message

/-- The lines up to the last document that is asked for, or all of them. -/
def portion : Option Nat → List NumberedLine → List NumberedLine
  | some 0, _ => []
  | _, [] => []
  | limit, line :: rest =>
    line :: portion (if line.document?.isSome then limit.map (· - 1) else limit) rest

theorem filterMap_document?_item (lines : List NumberedLine) :
    (lines.map NumberedLine.item).filterMap Item.document? = documentsOf lines := by
  induction lines with
  | nil => rfl
  | cons line rest ih =>
    rw [List.map_cons, documentsOf, List.filterMap_cons, List.filterMap_cons]
    rcases hdocument : line.document? with _ | document
    · rw [NumberedLine.item_of_malformed hdocument]
      exact ih
    · rw [NumberedLine.item_of_document hdocument]
      exact congrArg _ ih

theorem filterMap_message?_item (lines : List NumberedLine) :
    (lines.map NumberedLine.item).filterMap Item.message? = messagesOf lines := by
  induction lines with
  | nil => rfl
  | cons line rest ih =>
    rw [List.map_cons, messagesOf, malformedOf, List.filter_cons]
    rcases hdocument : line.document? with _ | document
    · rw [NumberedLine.item_of_malformed hdocument]
      exact congrArg _ ih
    · rw [NumberedLine.item_of_document hdocument]
      exact ih

/-- A line that is no document brings a pass no further, and one that is brings it one further. -/
theorem length_documentsOf_cons (line : NumberedLine) (rest : List NumberedLine) :
    (documentsOf (line :: rest)).length
      = (if line.document?.isSome then 1 else 0) + (documentsOf rest).length := by
  rw [documentsOf, List.filterMap_cons]
  rcases line.document? with _ | document
  · exact (Nat.zero_add _).symm
  · exact Nat.add_comm _ 1

theorem take_eq_portion {lines : List NumberedLine} {limit : Option Nat} {count : Nat}
    (hcount : count ≤ lines.length)
    (hshort : ∀ earlier < count, limit ≠ some (documentsOf (lines.take earlier)).length)
    (hend : count = lines.length ∨ limit = some (documentsOf (lines.take count)).length) :
    lines.take count = portion limit lines := by
  induction lines generalizing limit count with
  | nil =>
    rw [List.take_nil]
    rcases limit with _ | _ | limit <;> rfl
  | cons line rest ih =>
    rcases count with _ | count
    · have hzero : limit = some 0 := hend.resolve_left (Nat.succ_ne_zero _).symm
      rw [hzero, List.take_zero, portion]
    · have hsome : limit ≠ some 0 := hshort 0 (Nat.succ_pos _)
      -- The document of the line counts towards the limit, and the rest is asked for what is left.
      have hleft (found : Nat) :
          (if line.document?.isSome then limit.map (· - 1) else limit) = some found ↔
            limit = some ((if line.document?.isSome then 1 else 0) + found) := by
        split
        · rcases limit with _ | _ | limit
          · simp
          · exact absurd rfl hsome
          · simp [Nat.add_comm 1]
        · rw [Nat.zero_add]
      have hrest : rest.take count
          = portion (if line.document?.isSome then limit.map (· - 1) else limit) rest := by
        refine ih (Nat.le_of_succ_le_succ hcount) (fun earlier hearlier ↦ ?_) ?_
        · rw [ne_eq, hleft, ← length_documentsOf_cons, ← List.take_succ_cons]
          exact hshort (earlier + 1) (Nat.succ_lt_succ hearlier)
        · rw [hleft, ← length_documentsOf_cons, ← List.take_succ_cons]
          exact hend.imp_left Nat.succ.inj
      rw [List.take_succ_cons, hrest, portion]
      exact hsome

/-! ## Passes over memory -/

theorem itemsFrom_memory (files : FileSystem) (first : Nat) (stores : List (String × Octets)) :
    itemsFrom files first ((Source.memory stores).stores files)
      = (numberedFrom first (stores.map fun (name, octets) ↦ { name, octets })).map
          NumberedLine.item := by
  induction stores generalizing first with
  | nil => rfl
  | cons store rest ih =>
    rw [List.map_cons, map_item_numberedFrom_cons, ← ih]
    rw [Source.stores, List.map_cons, itemsFrom, StoreRef.items, StoreRef.open]
    simp only [Store.items, if_true, List.append_nil]
    rfl

/-- The first lines are numbered, and they have become documents of the pass and messages of the
reader, which had others before. -/
structure Progress.HasRead (progress : Progress) (lines : List NumberedLine)
    (before : List Message) (count : Nat) : Prop where
  number : progress.number = count + 1
  documents : progress.documents = documentsOf (lines.take count)
  messages : progress.messages = before ++ messagesOf (lines.take count)

/-- A reader passes over numbered lines: at every moment of a pass that asks for documents up to a
limit, it has read the first of them, and at its end those that it takes. -/
structure Reader.PassesOver (reader : Reader) (files : FileSystem) (limit : Option Nat)
    (lines : List NumberedLine) : Prop where
  moments : ∀ progress, (reader.start files).Leads files limit progress →
    ∃ count ≤ (portion limit lines).length, progress.HasRead lines reader.messages count
  documents : (reader.read files limit).2.documents = documentsOf (portion limit lines)
  messages : (reader.read files limit).1
    = { reader with messages := reader.messages ++ messagesOf (portion limit lines) }
  /-- A pass that does not stop at its limit has read all lines. -/
  stops : (reader.read files limit).2.stop = .exhausted ∧ portion limit lines = lines ∨
    (reader.read files limit).2.stop = .limit ∧
      limit = some (documentsOf (portion limit lines)).length

/-- What is done with a reader: a pass, up to a limit if there is one, or its messages are taken. -/
inductive ReaderStep where
  | read (limit : Option Nat)
  | take

namespace Reader

variable {reader : Reader} {files : FileSystem} {limit : Option Nat} {progress : Progress}
  {stores : List (String × Octets)}

/-- At every moment of a pass over memory some lines are read, the others are ahead, and before the
last that is read there were not as many documents as were asked for. -/
theorem exists_hasRead_of_leads (hsource : reader.source = .memory stores)
    (h : (reader.start files).Leads files limit progress) :
    ∃ count ≤ (numberedLines stores).length,
      progress.HasRead (numberedLines stores) reader.messages count ∧
      progress.ahead files = ((numberedLines stores).drop count).map NumberedLine.item ∧
      ∀ earlier < count,
        limit ≠ some (documentsOf ((numberedLines stores).take earlier)).length := by
  have hstart : (reader.start files).ahead files
      = (numberedLines stores).map NumberedLine.item := by
    rw [numberedLines_eq, ← itemsFrom_memory files, ← hsource]
    rfl
  obtain ⟨items, htakes, hahead, hshort⟩ := Progress.exists_takes_of_leads h
  rw [hstart] at hahead
  obtain ⟨done, left, hlines, rfl, hleft⟩ := List.map_eq_append_iff.mp hahead
  have hdone : (numberedLines stores).take done.length = done := by rw [hlines, List.take_left]
  refine ⟨done.length, ?_, ?_, ?_, fun earlier hearlier ↦ ?_⟩
  · rw [hlines, List.length_append]
    exact Nat.le_add_right _ _
  · constructor
    · rw [htakes.number, List.length_map]
      exact Nat.add_comm 1 _
    · rw [htakes.documents, filterMap_document?_item, hdone]
      exact List.nil_append _
    · rw [htakes.messages, filterMap_message?_item, hdone]
      rfl
  · rw [hlines, List.drop_left, hleft]
  · have hbefore := hshort earlier (by rwa [List.length_map])
    rw [← List.map_take, filterMap_document?_item] at hbefore
    rw [hlines, List.take_append_of_le_length (Nat.le_of_lt hearlier)]
    exact hbefore

/-- **A reader passes over the numbered lines of its stores in memory**, whatever messages it has.
-/
theorem passesOver_memory (hsource : reader.source = .memory stores) (files : FileSystem)
    (limit : Option Nat) : reader.PassesOver files limit (numberedLines stores) := by
  obtain ⟨hleads, hstop⟩ := Progress.leads_finish files limit (reader.start files)
  obtain ⟨count, hcount, hread, hahead, hshort⟩ := exists_hasRead_of_leads hsource hleads
  have hends : ((reader.start files).finish files limit).2 = .exhausted ∧
        count = (numberedLines stores).length ∨
      ((reader.start files).finish files limit).2 = .limit ∧
        limit = some (documentsOf ((numberedLines stores).take count)).length := by
    have hwhy := Progress.hasReason_of_stop hstop
    rcases hreason : ((reader.start files).finish files limit).2 with _ | _ | failure
    · rw [hreason, Progress.HasReason, hread.documents] at hwhy
      exact Or.inr ⟨rfl, hwhy⟩
    · rw [hreason, Progress.HasReason, hahead, List.map_eq_nil_iff, List.drop_eq_nil_iff] at hwhy
      exact Or.inl ⟨rfl, Nat.le_antisymm hcount hwhy⟩
    · -- In memory nothing fails: no numbered line is a failure.
      rw [hreason, Progress.HasReason, hahead] at hwhy
      obtain ⟨rest, hfailure⟩ := hwhy
      obtain ⟨line, -, -, hline, -⟩ := List.map_eq_cons_iff.mp hfailure
      exact absurd hline (line.item_ne_failure failure)
  have hportion := take_eq_portion hcount hshort (hends.imp And.right And.right)
  have hlength : (portion limit (numberedLines stores)).length = count := by
    rw [← hportion, List.length_take, Nat.min_eq_left hcount]
  constructor
  · intro progress hmoment
    obtain ⟨earlier, hearlier, hhas, -, -⟩ := exists_hasRead_of_leads hsource hmoment
    refine ⟨earlier, ?_, hhas⟩
    -- The end of the pass is also its end from here, and numbers only grow.
    obtain ⟨items, htakes, -⟩ :=
      Progress.exists_takes_of_leads (Progress.leads_finish files limit progress).1
    have hgrows := htakes.number
    rw [Progress.finish_of_leads hmoment, hread.number, hhas.number] at hgrows
    omega
  · rw [← hportion]
    exact hread.documents
  · rw [← hportion, ← hread.messages]
    rfl
  · rw [← hportion]
    refine hends.imp (fun ⟨hexhausted, hall⟩ ↦ ⟨hexhausted, ?_⟩) id
    rw [hall, List.take_length]

/-! ### Pass after pass -/

def apply (files : FileSystem) (reader : Reader) : ReaderStep → Reader
  | .read limit => (reader.read files limit).1
  | .take => reader.take.1

def after (files : FileSystem) (reader : Reader) (steps : List ReaderStep) : Reader :=
  steps.foldl (apply files) reader

/-- The messages that passes over lines have left and that were not taken since. -/
def untaken (lines : List NumberedLine) : List Message → List ReaderStep → List Message
  | before, [] => before
  | before, .read limit :: rest => untaken lines (before ++ messagesOf (portion limit lines)) rest
  | _, .take :: rest => untaken lines [] rest

/-- Every pass begins anew, and its messages come after those that were not taken. -/
theorem after_memory (files : FileSystem) (stores : List (String × Octets))
    (before : List Message) (steps : List ReaderStep) :
    after files { source := .memory stores, messages := before } steps
      = { source := .memory stores, messages := untaken (numberedLines stores) before steps } := by
  induction steps generalizing before with
  | nil => rfl
  | cons step rest ih =>
    rw [after, List.foldl_cons, ← after]
    rcases step with limit | _
    · rw [apply, (passesOver_memory rfl files limit).messages, untaken]
      exact ih _
    · rw [untaken]
      exact ih []

/-- **The numbered lines are all that passes come to**, each once: documents are what is read of the
first lines, with their numbers, and messages tell of the other lines among them. So it is at every
moment of every pass, whatever passes there were before and whatever they were stopped at. -/
theorem passesOver_numberedLines (files : FileSystem) (stores : List (String × Octets))
    (steps : List ReaderStep) (limit : Option Nat) :
    let lines := numberedLines stores
    let reader := after files { source := .memory stores } steps
    reader.source = .memory stores ∧ reader.messages = untaken lines [] steps ∧
      reader.PassesOver files limit lines ∧
      ∀ line ∈ lines, line.message.kind = Message.Kind.malformedJson ∧
        line.message.field = Path.root ∧
        line.message.context.get? "document_number" = some (.ofNat line.number) ∧
        line.message.context.get? "store" = some (.string line.store) := by
  intro lines reader
  have hreader : reader = _ := after_memory files stores [] steps
  refine ⟨?_, ?_, ?_, fun line _ ↦ ⟨rfl, rfl, rfl, rfl⟩⟩
  · rw [hreader]
  · rw [hreader]
  · exact passesOver_memory (by rw [hreader]) files limit

end Reader

end DocumentSchema
