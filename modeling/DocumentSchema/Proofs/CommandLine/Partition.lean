import DocumentSchema.Proofs.CommandLine.Failure

/-!
# A run partitions its input

A run splits the numbered lines of its source in three: documents about which nothing is printed,
documents about which something is, and lines that are no documents. The first are handed to the
sink for accepted documents, the second to the one for rejected documents, and what is printed names
the second and the third.

Which document a message is about is read off the message as it is printed. A number comes up once,
so a message that bears it is a finding about its document or says that its line is malformed, and
a document is accepted exactly if it has no findings.
-/

namespace DocumentSchema

variable {schema : Schema} {run : Run}

namespace Run

/-! ## The parts -/

/-- What is printed about lines: the findings about the documents in order, and then one message for
each malformed line. -/
def messagesOf (schema : Schema) (lines : List NumberedLine) : List Message :=
  (documentsOf lines).flatMap (·.messages schema) ++ (malformedOf lines).map (·.message)

/-- Nothing that was printed is about the document. -/
def isSilentOn (run : Run) (document : Document) : Bool :=
  run.printed.all fun message ↦ message.documentNumber? ≠ some document.number

/-- The documents among lines about which nothing was printed. -/
def acceptedOf (run : Run) (lines : List NumberedLine) : List Document :=
  (documentsOf lines).filter run.isSilentOn

/-- The documents among lines about which something was printed. -/
def rejectedOf (run : Run) (lines : List NumberedLine) : List Document :=
  (documentsOf lines).filter fun document ↦ !run.isSilentOn document

/-- A run from a start to its end has split stores in three. -/
structure Partitions (schema : Schema) (stores : List Store) (start finished : Run)
    (report : Report) : Prop where
  /-- Every store was read to its end. -/
  complete : ∀ store ∈ stores, store.complete = true
  /-- The lines that are not blank are numbered from one on, and each is accepted, rejected or
  malformed. -/
  numbers :
    ((finished.acceptedOf (numberedFrom 1 stores)).map (·.number) ++
      (finished.rejectedOf (numberedFrom 1 stores)).map (·.number) ++
      (malformedOf (numberedFrom 1 stores)).map (·.number)).Perm
        (List.range' 1 (stores.flatMap Store.lines).length)
  /-- The documents were handed over in order, those about which nothing was printed to the sink for
  accepted documents and the others to the sink for rejected documents. -/
  delivered : start.outputs.Received (documentsOf (numberedFrom 1 stores))
    (finished.acceptedOf (numberedFrom 1 stores)) (finished.rejectedOf (numberedFrom 1 stores))
    finished.files
  /-- The messages about documents come first, in the order of the documents, and then one for each
  malformed line. -/
  printed : finished.printed = messagesOf schema (numberedFrom 1 stores)
  /-- The messages about a document are its findings and bear its number, -/
  about : ∀ document ∈ documentsOf (numberedFrom 1 stores),
    document.findings schema = .ok (document.messages schema) ∧
      ∀ message ∈ document.messages schema, message.documentNumber? = some document.number
  /-- and the numbers that are borne are those of what was rejected or is malformed. -/
  borne : ∀ number, (∃ message ∈ finished.printed, message.documentNumber? = some number) ↔
    number ∈ (finished.rejectedOf (numberedFrom 1 stores)).map (·.number) ∨
      number ∈ (malformedOf (numberedFrom 1 stores)).map (·.number)
  /-- The run was clean if nothing was printed, -/
  clean_iff : report = .clean ↔ finished.printed = []
  /-- and else its report is the number of messages printed. -/
  findings : finished.printed ≠ [] → report = .findings finished.printed.length

section Numbers

variable {lines : List NumberedLine}

/-- Where no number comes twice, it tells documents and malformed lines apart. -/
theorem nodup_numbers (h : (lines.map (·.number)).Nodup) :
    ((documentsOf lines).map (·.number)).Nodup ∧
      ∀ document ∈ documentsOf lines, ∀ line ∈ malformedOf lines,
        document.number ≠ line.number := by
  have hnodup := (map_number_documentsOf_append_malformedOf lines).nodup_iff.mpr h
  rw [List.nodup_append] at hnodup
  refine ⟨hnodup.1, fun document hdocument line hline ↦ ?_⟩
  exact hnodup.2.2 _ (List.mem_map_of_mem hdocument) _ (List.mem_map_of_mem hline)

/-- **Nothing is printed about a document exactly if it has no findings.** -/
theorem isSilentOn_eq (hanswers : schema.Answers) (hlines : (lines.map (·.number)).Nodup)
    (hprinted : run.printed = messagesOf schema lines) {document : Document}
    (hdocument : document ∈ documentsOf lines) :
    run.isSilentOn document = (document.messages schema).isEmpty := by
  obtain ⟨hnodup, hdisjoint⟩ := nodup_numbers hlines
  rw [Bool.eq_iff_iff, isSilentOn, List.all_eq_true, List.isEmpty_iff, hprinted, messagesOf]
  constructor
  · intro hsilent
    rw [List.eq_nil_iff_forall_not_mem]
    intro message hmessage
    have hmem := List.mem_append_left ((malformedOf lines).map (·.message))
      (List.mem_flatMap.mpr ⟨document, hdocument, hmessage⟩)
    simpa [(hanswers document).2 message hmessage] using hsilent message hmem
  · intro hnone message hmessage
    rw [decide_eq_true_iff]
    intro hnumber
    rcases List.mem_append.mp hmessage with hfinding | hmalformed
    · obtain ⟨other, hother, hfinding⟩ := List.mem_flatMap.mp hfinding
      have heq : other.number = document.number :=
        Option.some.inj (((hanswers other).2 message hfinding).symm.trans hnumber)
      obtain rfl := List.inj_on_of_nodup_map hnodup hother hdocument heq
      rw [hnone] at hfinding
      cases hfinding
    · obtain ⟨line, hline, rfl⟩ := List.mem_map.mp hmalformed
      rw [line.documentNumber?_message] at hnumber
      exact hdisjoint document hdocument line hline (Option.some.inj hnumber).symm

theorem exists_documentNumber?_iff (hanswers : schema.Answers)
    (hprinted : run.printed = messagesOf schema lines) (number : Nat) :
    (∃ message ∈ run.printed, message.documentNumber? = some number) ↔
      number ∈ (run.rejectedOf lines).map (·.number) ∨
        number ∈ (malformedOf lines).map (·.number) := by
  constructor
  · rintro ⟨message, hmessage, hnumber⟩
    have hmem := hmessage
    rw [hprinted] at hmem
    rcases List.mem_append.mp hmem with hfinding | hmalformed
    · obtain ⟨document, hdocument, hfinding⟩ := List.mem_flatMap.mp hfinding
      have hborne := (hanswers document).2 message hfinding
      obtain rfl := Option.some.inj (hborne.symm.trans hnumber)
      refine .inl (List.mem_map_of_mem (List.mem_filter.mpr ⟨hdocument, ?_⟩))
      rw [Bool.not_eq_true', isSilentOn, List.all_eq_false]
      exact ⟨message, hmessage, by simp [hborne]⟩
    · obtain ⟨line, hline, rfl⟩ := List.mem_map.mp hmalformed
      obtain rfl := Option.some.inj (line.documentNumber?_message.symm.trans hnumber)
      exact .inr (List.mem_map_of_mem hline)
  · rintro (hrejected | hmalformed)
    · obtain ⟨document, hdocument, rfl⟩ := List.mem_map.mp hrejected
      have hloud := (List.mem_filter.mp hdocument).2
      rw [Bool.not_eq_true', isSilentOn, List.all_eq_false] at hloud
      obtain ⟨message, hmessage, hborne⟩ := hloud
      exact ⟨message, hmessage, by simpa using hborne⟩
    · obtain ⟨line, hline, rfl⟩ := List.mem_map.mp hmalformed
      refine ⟨line.message, ?_, line.documentNumber?_message⟩
      rw [hprinted]
      exact List.mem_append_right _ (List.mem_map_of_mem hline)

theorem map_number_parts (run : Run) (lines : List NumberedLine) :
    ((run.acceptedOf lines).map (·.number) ++ (run.rejectedOf lines).map (·.number) ++
      (malformedOf lines).map (·.number)).Perm (lines.map (·.number)) := by
  refine .trans (List.Perm.append_right _ ?_) (map_number_documentsOf_append_malformedOf lines)
  rw [← List.map_append]
  exact (List.filter_append_perm run.isSilentOn _).map _

end Numbers

/-! ## Whole runs -/

/-- **A run that comes to its end has delivered the documents of its source and printed the
messages.** -/
theorem received_of_validateSource {source : Source} {finished : Run} {report : Report}
    (h : run.validateSource schema source = (finished, .ok report))
    (hfresh : run.printed = [] ∧ run.malformed = [] ∧ run.reported = 0)
    {lines : List NumberedLine} (hlines : lines = numberedFrom 1 (run.stores schema source)) :
    (∀ store ∈ run.stores schema source, store.complete = true) ∧
      (∀ document ∈ documentsOf lines,
        document.findings schema = .ok (document.messages schema)) ∧
      run.outputs.Received (documentsOf lines)
        ((documentsOf lines).filter fun document ↦ (document.messages schema).isEmpty)
        ((documentsOf lines).filter fun document ↦ !(document.messages schema).isEmpty)
        finished.files ∧
      finished.printed = messagesOf schema lines ∧ report = .ofCount finished.printed.length := by
  obtain ⟨hprinted, hmalformed, hreported⟩ := hfresh
  rw [validateSource] at h
  generalize hstores : run.addStores schema 1 (source.stores run.files) = step at h
  obtain ⟨after, result⟩ := step
  cases result with
  | error failure => cases h
  | ok =>
    obtain ⟨hcomplete, hitems⟩ := addItems_of_addStores hstores
    have hgone : GoesThrough schema lines run after := goesThrough_of_addItems (hlines ▸ hitems)
    dsimp only at h
    generalize hfinish : (after.print after.malformed).finish = last at h
    obtain ⟨last, result⟩ := last
    obtain ⟨rfl, hreport⟩ := Prod.mk.inj h
    obtain ⟨_, rfl, rfl⟩ := map_eq_ok_iff.mp hreport
    obtain ⟨⟨between, hone, hother⟩, hend, hcount⟩ := of_finish hfinish
    -- Of the malformed lines there are messages already when they are printed.
    have hmessages : (after.print after.malformed).printed = messagesOf schema lines := by
      rw [print, messagesOf, hgone.printed, hgone.malformed, hprinted, hmalformed, List.nil_append,
        List.nil_append]
    refine ⟨hcomplete, hgone.findings, hgone.handedOver.received hone hother,
      hend.trans hmessages, ?_⟩
    rw [hcount, hend, hmessages, messagesOf, print, hgone.reported, hgone.malformed, hreported,
      hmalformed, List.nil_append, Nat.zero_add, List.length_append]

/-- **A run partitions its input.** With a schema from a file, a run in which reading and writing do
not fail comes to its end, whatever the documents contain, and splits the lines of its source in
three. -/
theorem validateSource_partitions {schemaFiles files : FileSystem} {path : String}
    {ignoreExtraFields : Bool}
    (hload : Schema.load schemaFiles path ignoreExtraFields = .ok schema) (source : Source)
    (accepted rejected : Option Sink)
    (hio : ∀ reason, (validateSource schema source { files, accepted, rejected }).2
      ≠ .error (.io reason)) :
    ∃ finished report,
      validateSource schema source { files, accepted, rejected } = (finished, .ok report) ∧
      Partitions schema (stores schema { files, accepted, rejected } source)
        { files, accepted, rejected } finished report := by
  have hanswers := Schema.answers_of_load hload
  have honly := onlyIo_validateSource hanswers source { files, accepted, rejected }
  cases hrun : validateSource schema source { files, accepted, rejected } with
  | mk finished result =>
    rw [hrun] at honly hio
    cases result with
    | error failure =>
      obtain ⟨reason, rfl⟩ := honly failure rfl
      exact absurd rfl (hio reason)
    | ok report =>
      refine ⟨finished, report, rfl, ?_⟩
      generalize hlines : numberedFrom 1 (stores schema { files, accepted, rejected } source) = lines
      obtain ⟨hcomplete, -, hreceived, hprinted, rfl⟩ :=
        received_of_validateSource hrun ⟨rfl, rfl, rfl⟩ hlines.symm
      have hnumbers : (lines.map (·.number)).Nodup := by
        rw [← hlines, map_number_numberedFrom]
        exact List.nodup_range'
      have hsilent : ∀ document ∈ documentsOf lines,
          (document.messages schema).isEmpty = finished.isSilentOn document :=
        fun document hdocument ↦ (isSilentOn_eq hanswers hnumbers hprinted hdocument).symm
      rw [List.filter_congr hsilent, List.filter_congr fun document hdocument ↦
        congrArg not (hsilent document hdocument)] at hreceived
      subst hlines
      refine ⟨hcomplete, ?_, hreceived, hprinted, fun document _ ↦ hanswers document,
        exists_documentNumber?_iff hanswers hprinted, ?_, fun hloud ↦ ?_⟩
      · rw [← map_number_numberedFrom]
        exact map_number_parts finished _
      · rw [Report.ofCount]
        cases finished.printed <;> simp
      · rw [Report.ofCount, if_neg (by simpa using hloud)]

/-- A document with the declared member, a blank line, a line that is no document, and a document
that is no object. -/
theorem validateSource_partitions_memory :
    let files : FileSystem :=
      { nodes := [(["schema"], .file (encodeText "[[fields]]\npath=\"a\"\n"))] }
    let octets := encodeText "\x7b\"a\":1\x7d\n \n\x7boops\n[1]\n"
    let source := Source.memory [("-", octets)]
    let accepted := Sink.ofPath? (some "accepted")
    let rejected := Sink.ofPath? (some "rejected")
    let start : Run := { files, accepted, rejected }
    ∃ schema finished, Schema.load files "schema" false = .ok schema ∧
      start.validateSource schema source = (finished, .ok (.findings 2)) ∧
      finished.files.node? ["accepted"] = some (.file (encodeText "\x7b\"a\":1\x7d\n")) ∧
      finished.files.node? ["rejected"] = some (.file (encodeText "[1]\n")) ∧
      Partitions schema [{ name := "-", octets }] start finished (.findings 2) := by
  intro files octets source accepted rejected start
  have hrun : (Schema.load files "schema" false).toOption.map (fun schema ↦
      let (finished, result) := start.validateSource schema source
      (result.toOption, finished.files.node? ["accepted"], finished.files.node? ["rejected"])) =
        some (some (.findings 2), some (.file (encodeText "\x7b\"a\":1\x7d\n")),
          some (.file (encodeText "[1]\n"))) := by
    decide +kernel
  cases hload : Schema.load files "schema" false with
  | error failure => rw [hload] at hrun; cases hrun
  | ok schema =>
    rw [hload] at hrun
    have hrun := Option.some.inj hrun
    dsimp only at hrun
    have hio : ∀ reason, (start.validateSource schema source).2 ≠ .error (.io reason) := by
      intro reason hfailed
      have hresult := congrArg Prod.fst hrun
      rw [hfailed] at hresult
      cases hresult
    obtain ⟨finished, report, hfinished, hpartitions⟩ :=
      validateSource_partitions hload source accepted rejected hio
    have hfinished : start.validateSource schema source = (finished, .ok report) := hfinished
    rw [hfinished] at hrun
    obtain ⟨hreport, hfiles⟩ := Prod.mk.inj hrun
    obtain ⟨haccepted, hrejected⟩ := Prod.mk.inj hfiles
    obtain rfl := Option.some.inj hreport
    rw [stores_memory] at hpartitions
    exact ⟨schema, finished, rfl, hfinished, haccepted, hrejected, hpartitions⟩

end Run

end DocumentSchema
