import DocumentSchema.Proofs.CommandLine.HandOver
import DocumentSchema.Proofs.Lines.Numbered
import DocumentSchema.Proofs.SchemaFile.Reordering

/-!
# What a run delivers

A run that has gone through the stores of a source has gone through their numbered lines
(`addItems_of_addStores`). On the way it has handed the documents over to its sinks, and it has
taken notes: the findings about each document are printed, and what there is to say of malformed
lines is kept for the end (`GoesThrough`).

That a document always has findings, and that each bears the number of the document, is all that
has to be known of the schema. It holds of every schema from a file, because these have no custom
checks.
-/

namespace DocumentSchema

variable {schema : Schema} {run after : Run}

/-! ## Findings about a document -/

/-- The number of the document that a message as it is printed says it is about. -/
def Message.documentNumber? (message : Message) : Option Nat :=
  match Entries.get? message.wire "document_number" with
  | some (.number number) => number.asCount?
  | _ => none

theorem Message.documentNumber?_of_context {message : Message} {number : Nat}
    (h : Entries.get? message.context "document_number" = some (.ofNat number)) :
    message.documentNumber? = some number := by
  have hwire : Entries.get? message.wire "document_number" = some (.ofNat number) := by
    rw [← h, wire]
    cases message.expected <;> simp [Entries.get?_cons]
  rw [documentNumber?, hwire]
  simp [Json.ofNat, Number.asCount?]

theorem Message.documentNumber?_extendContext (message : Message) (document : Document) :
    (message.extendContext document.context).documentNumber? = some document.number := by
  apply documentNumber?_of_context
  have hnumber : isContextKey "document_number" = true := by decide
  rw [Document.context, extendContext_cons, extendContext_cons, extendContext_nil, withContext,
    if_pos hnumber]
  exact (Entries.get?_insert ..).trans (if_pos rfl)

theorem NumberedLine.documentNumber?_message (line : NumberedLine) :
    line.message.documentNumber? = some line.number := by
  apply Message.documentNumber?_of_context
  rfl

/-- The findings about a document, if there is no failure. -/
def Document.messages (schema : Schema) (document : Document) : List Message :=
  (document.findings schema).toOption.getD []

/-- Every document has findings, and all of them are about it. -/
def Schema.Answers (schema : Schema) : Prop :=
  ∀ document : Document, document.findings schema = .ok (document.messages schema) ∧
    ∀ message ∈ document.messages schema, message.documentNumber? = some document.number

theorem Schema.Regular.answers (h : schema.Regular) : schema.Answers := by
  intro document
  obtain ⟨findings, hfindings⟩ : ∃ findings : List Message,
      document.findings schema = .ok (findings.map (·.extendContext document.context)) := by
    rw [Document.findings]
    cases document.contents with
    | object members => exact ⟨_, by rw [h.validate_eq]⟩
    | null | bool _ | number _ | string _ | array _ => exact ⟨[_], rfl⟩
  have hmessages : document.messages schema
      = findings.map (·.extendContext document.context) := by
    rw [Document.messages, hfindings]
    rfl
  rw [hmessages]
  refine ⟨hfindings, fun message hmessage ↦ ?_⟩
  obtain ⟨finding, -, rfl⟩ := List.mem_map.mp hmessage
  exact finding.documentNumber?_extendContext document

/-- **A schema from a file has an answer to every document.** -/
theorem Schema.answers_of_load {files : FileSystem} {path : String} {ignoreExtraFields : Bool}
    (h : Schema.load files path ignoreExtraFields = .ok schema) : schema.Answers := by
  rw [load] at h
  obtain ⟨file, -, hcompile⟩ := bind_eq_ok_iff.mp h
  exact (SchemaFile.regular_of_compile SchemaFile.neverFail_empty
    (mapError_eq_ok_iff.mp hcompile)).answers

/-! ## Handing over and taking notes -/

namespace Run

def outputs (run : Run) : Outputs := ⟨run.files, run.accepted, run.rejected⟩

theorem takes_of_hand {files now : FileSystem} {document : Document} {sink next : Option Sink}
    (h : hand files document sink = (now, next, .ok ())) :
    Outputs.Takes document files sink now next := by
  cases sink with
  | none =>
    obtain ⟨rfl, hnext⟩ := Prod.mk.inj h
    obtain ⟨rfl, -⟩ := Prod.mk.inj hnext
    exact .none
  | some sink =>
    rw [hand] at h
    generalize hadd : sink.add files document.store document.contents = step at h
    obtain ⟨added, last, result⟩ := step
    obtain ⟨rfl, hnext⟩ := Prod.mk.inj h
    obtain ⟨rfl, rfl⟩ := Prod.mk.inj hnext
    exact .add hadd

/-- A document for which there are no findings goes to the sink for accepted documents, and one for
which there are to the sink for rejected documents. -/
theorem handedOver_of_route {document : Document} {clean : Bool}
    {documents ones others : List Document} {last : Outputs}
    (h : run.route document clean = (after, .ok ()))
    (hrest : after.outputs.HandedOver documents ones others last) :
    run.outputs.HandedOver (document :: documents) (if clean then document :: ones else ones)
      (if !clean then document :: others else others) last := by
  rw [route] at h
  cases clean with
  | true =>
    rw [if_pos rfl] at h
    obtain ⟨rfl, hok⟩ := Prod.mk.inj h
    exact .accepted (takes_of_hand (Prod.ext rfl (Prod.ext rfl hok))) hrest
  | false =>
    rw [if_neg Bool.false_ne_true] at h
    obtain ⟨rfl, hok⟩ := Prod.mk.inj h
    exact .rejected (takes_of_hand (Prod.ext rfl (Prod.ext rfl hok))) hrest

theorem notes_of_route {document : Document} {clean : Bool} {result : Except Failure Unit}
    (h : run.route document clean = (after, result)) :
    after.printed = run.printed ∧ after.malformed = run.malformed ∧
      after.reported = run.reported := by
  cases clean <;> · obtain ⟨rfl, -⟩ := Prod.mk.inj h; exact ⟨rfl, rfl, rfl⟩

/-- A document that is added has findings, and these are printed once it is routed. -/
theorem of_addDocument {document : Document}
    (h : run.addDocument schema document = (after, .ok ())) :
    document.findings schema = .ok (document.messages schema) ∧
      ∃ routed, run.route document (document.messages schema).isEmpty = (routed, .ok ()) ∧
        after = routed.print (document.messages schema) := by
  rw [addDocument] at h
  rw [Document.messages]
  cases hfindings : document.findings schema with
  | error failure =>
    rw [hfindings] at h
    cases h
  | ok messages =>
    rw [hfindings] at h
    rw [Except.toOption, Option.getD_some]
    refine ⟨rfl, ?_⟩
    dsimp only at h
    generalize run.route document messages.isEmpty = step at h ⊢
    obtain ⟨routed, result⟩ := step
    cases result with
    | error failure => cases h
    | ok => exact ⟨routed, rfl, (Prod.mk.inj h).1.symm⟩

/-! ## Lines -/

/-- A run has gone through lines: it has handed the documents over, printed what there is to say
about them, and taken notes of the malformed lines. -/
structure GoesThrough (schema : Schema) (lines : List NumberedLine) (run after : Run) : Prop where
  /-- What has no findings is a failure, so all documents have. -/
  findings : ∀ document ∈ documentsOf lines,
    document.findings schema = .ok (document.messages schema)
  handedOver : run.outputs.HandedOver (documentsOf lines)
    ((documentsOf lines).filter fun document ↦ (document.messages schema).isEmpty)
    ((documentsOf lines).filter fun document ↦ !(document.messages schema).isEmpty) after.outputs
  printed : after.printed = run.printed ++ (documentsOf lines).flatMap (·.messages schema)
  malformed : after.malformed = run.malformed ++ (malformedOf lines).map (·.message)
  reported : after.reported =
    run.reported + ((documentsOf lines).flatMap (·.messages schema)).length

theorem goesThrough_nil (schema : Schema) (run : Run) : GoesThrough schema [] run run :=
  ⟨fun _ ↦ (nomatch ·), .nil _, by simp [documentsOf], by simp [malformedOf], rfl⟩

variable {line : NumberedLine} {rest : List NumberedLine}

theorem GoesThrough.malformed_cons (hmalformed : line.document? = none)
    (h : GoesThrough schema rest { run with malformed := run.malformed ++ [line.message] } after) :
    GoesThrough schema (line :: rest) run after := by
  have hdocuments : documentsOf (line :: rest) = documentsOf rest :=
    List.filterMap_cons_none hmalformed
  have hlines : malformedOf (line :: rest) = line :: malformedOf rest :=
    List.filter_cons_of_pos (by rw [hmalformed, Option.isNone_none])
  refine ⟨hdocuments ▸ h.findings, hdocuments ▸ h.handedOver, hdocuments ▸ h.printed, ?_,
    hdocuments ▸ h.reported⟩
  rw [h.malformed, hlines, List.map_cons, List.append_assoc, List.singleton_append]

theorem GoesThrough.document_cons {document : Document} {routed : Run}
    (hdocument : line.document? = some document)
    (hfindings : document.findings schema = .ok (document.messages schema))
    (hroute : run.route document (document.messages schema).isEmpty = (routed, .ok ()))
    (h : GoesThrough schema rest (routed.print (document.messages schema)) after) :
    GoesThrough schema (line :: rest) run after := by
  have hdocuments : documentsOf (line :: rest) = document :: documentsOf rest :=
    List.filterMap_cons_some hdocument
  have hlines : malformedOf (line :: rest) = malformedOf rest :=
    List.filter_cons_of_neg (by rw [hdocument]; exact Bool.false_ne_true)
  obtain ⟨hprinted, hmalformed, hreported⟩ := notes_of_route hroute
  refine ⟨?_, ?_, ?_, ?_, ?_⟩
  · rw [hdocuments]
    exact List.forall_mem_cons.mpr ⟨hfindings, h.findings⟩
  · rw [hdocuments, List.filter_cons, List.filter_cons]
    exact handedOver_of_route hroute h.handedOver
  · rw [h.printed, hdocuments, List.flatMap_cons, print, hprinted, List.append_assoc]
  · rw [h.malformed, hlines, print, hmalformed]
  · rw [h.reported, hdocuments, List.flatMap_cons, List.length_append, print, hreported,
      Nat.add_assoc]

/-- **Going through lines hands over the documents and takes notes.** -/
theorem goesThrough_of_addItems {lines : List NumberedLine}
    (h : run.addItems schema (lines.map NumberedLine.item) = (after, .ok ())) :
    GoesThrough schema lines run after := by
  induction lines generalizing run with
  | nil =>
    obtain ⟨rfl, -⟩ := Prod.mk.inj h
    exact goesThrough_nil schema run
  | cons line rest ih =>
    rw [List.map_cons] at h
    cases hdocument : line.document? with
    | none =>
      rw [NumberedLine.item_of_malformed hdocument, addItems] at h
      exact (ih h).malformed_cons hdocument
    | some document =>
      rw [NumberedLine.item_of_document hdocument, addItems] at h
      generalize hadd : run.addDocument schema document = step at h
      obtain ⟨added, result⟩ := step
      cases result with
      | error failure => cases h
      | ok =>
        obtain ⟨hfindings, routed, hroute, rfl⟩ := of_addDocument hadd
        exact (ih h).document_cons hdocument hfindings hroute

/-! ## The end -/

theorem isClosed_of_finishSink {files now : FileSystem} {sink : Option Sink}
    (h : finishSink files sink = (now, .ok ())) : Outputs.IsClosed files sink now := by
  cases sink with
  | none =>
    obtain ⟨rfl, -⟩ := Prod.mk.inj h
    exact .none
  | some sink =>
    rw [finishSink] at h
    generalize hclose : sink.close files = step at h
    obtain ⟨closed, next, result⟩ := step
    obtain ⟨rfl, rfl⟩ := Prod.mk.inj h
    exact .close hclose

/-- Both sinks are closed in the end, and what was printed stays. -/
theorem of_finish (h : run.finish = (after, .ok ())) :
    (∃ between, Outputs.IsClosed run.files run.accepted between ∧
      Outputs.IsClosed between run.rejected after.files) ∧
      after.printed = run.printed ∧ after.reported = run.reported := by
  rw [finish] at h
  generalize haccepted : finishSink run.files run.accepted = closed at h
  obtain ⟨between, result⟩ := closed
  cases result with
  | error failure => cases h
  | ok =>
    obtain ⟨rfl, hok⟩ := Prod.mk.inj h
    exact ⟨⟨between, isClosed_of_finishSink haccepted,
      isClosed_of_finishSink (Prod.ext rfl hok)⟩, rfl, rfl⟩

/-! ## Stores -/

theorem addItems_append (run : Run) (first second : List Item) :
    run.addItems schema (first ++ second) = match run.addItems schema first with
      | (run, .ok ()) => run.addItems schema second
      | failed => failed := by
  induction first generalizing run with
  | nil => rfl
  | cons item rest ih =>
    cases item with
    | document document =>
      rw [List.cons_append, addItems, addItems]
      obtain ⟨added, result⟩ := run.addDocument schema document
      cases result with
      | error failure => rfl
      | ok => exact ih added
    | malformed message => exact ih _
    | failure failure => rfl

/-- The stores that a run opens, each when its turn comes. -/
def opened (schema : Schema) : Run → Nat → List StoreRef → List Store
  | _, _, [] => []
  | run, first, store :: rest =>
    match store.open run.files with
    | .error _ => []
    | .ok store =>
      store :: opened schema (run.addItems schema (store.items first)).1
        (first + store.lines.length) rest

/-- The stores that a run reads of a source. -/
def stores (schema : Schema) (run : Run) (source : Source) : List Store :=
  run.opened schema 1 (source.stores run.files)

theorem stores_memory (schema : Schema) (run : Run) (given : List (String × Octets)) :
    run.stores schema (.memory given) = given.map fun (name, octets) ↦ { name, octets } := by
  have hopened : ∀ first run, opened schema run first
      (given.map fun (name, octets) ↦ .memory name octets)
        = given.map fun (name, octets) ↦ { name, octets } := by
    induction given with
    | nil => exact fun _ _ ↦ rfl
    | cons store rest ih =>
      intro first run
      rw [List.map_cons, List.map_cons, ← ih]
      rfl
  exact hopened 1 run

/-- **Going through stores is going through their numbered lines.** -/
theorem addItems_of_addStores {first : Nat} {refs : List StoreRef}
    (h : run.addStores schema first refs = (after, .ok ())) :
    (∀ store ∈ run.opened schema first refs, store.complete = true) ∧
      run.addItems schema ((numberedFrom first (run.opened schema first refs)).map
        NumberedLine.item) = (after, .ok ()) := by
  induction refs generalizing run first with
  | nil => exact ⟨fun _ ↦ (nomatch ·), h⟩
  | cons ref rest ih =>
    rw [addStores, StoreRef.items] at h
    rw [opened]
    cases hopen : ref.open run.files with
    | error failure =>
      rw [hopen] at h
      cases h
    | ok store =>
      rw [hopen] at h
      dsimp only at h ⊢
      cases hcomplete : store.complete with
      | false =>
        -- A store that is not complete ends with a failure.
        rw [Store.items, hcomplete, if_neg (by decide), addItems_append] at h
        generalize run.addItems schema (Item.ofLines store.name first store.lines) = step at h
        obtain ⟨added, result⟩ := step
        cases result <;> cases h
      | true =>
        rw [map_item_numberedFrom_cons, addItems_append]
        have hitems : store.items first = Item.ofLines store.name first store.lines := by
          rw [Store.items, hcomplete, if_pos rfl, List.append_nil]
        rw [hitems] at h ⊢
        generalize run.addItems schema (Item.ofLines store.name first store.lines) = step at h ⊢
        obtain ⟨added, result⟩ := step
        cases result with
        | error failure => cases h
        | ok =>
          obtain ⟨hrest, hlines⟩ := ih h
          exact ⟨List.forall_mem_cons.mpr ⟨hcomplete, hrest⟩, hlines⟩

end Run

end DocumentSchema
