import DocumentSchema.Proofs.CommandLine.Partition

/-!
# What a run leaves in its output files

A run writes to two files side by side. Each is created when the first document comes for it, which
empties it; from then on it is open to the end of the run. So a file for which a document came holds
the documents that came for it and nothing else, whereas a file for which none came is not touched:
it still has what an earlier run left there (`not_emptied`).
-/

namespace DocumentSchema

namespace Run

variable {files : FileSystem} {schema : Schema} {finished : Run} {accepted rejected : String}

/-- The start of a run with a file for accepted documents and one for rejected documents. -/
def withOutputs (files : FileSystem) (accepted rejected : String) : Run :=
  { files, accepted := Sink.ofPath? (some accepted), rejected := Sink.ofPath? (some rejected) }

/-- The documents of a source about which there are no findings. -/
def cleanDocuments (schema : Schema) (run : Run) (source : Source) : List Document :=
  (documentsOf (numberedFrom 1 (run.stores schema source))).filter
    fun document ↦ (document.messages schema).isEmpty

/-- The documents of a source about which there are findings. -/
def loudDocuments (schema : Schema) (run : Run) (source : Source) : List Document :=
  (documentsOf (numberedFrom 1 (run.stores schema source))).filter
    fun document ↦ !(document.messages schema).isEmpty

theorem apart_of_ne (h : files.place? accepted ≠ files.place? rejected) (place : Place)
    (haccepted : files.place? accepted = some place) : files.place? rejected ≠ some place :=
  fun hrejected ↦ h (haccepted.trans hrejected.symm)

/-- **A run replaces the contents of its output files** with the documents that came for them, one
on each line. A file for which no document came is as it was. -/
theorem validateSource_outputs {source : Source} {report : Report}
    (hapart : ∀ place, files.place? accepted = some place → files.place? rejected ≠ some place)
    (hrun : (withOutputs files accepted rejected).validateSource schema source =
      (finished, .ok report)) :
    (∀ document ∈
        documentsOf (numberedFrom 1 ((withOutputs files accepted rejected).stores schema source)),
      document.findings schema = .ok (document.messages schema)) ∧
    Sink.Replaced files accepted
      (((withOutputs files accepted rejected).cleanDocuments schema source).map (·.contents))
      finished.files ∧
    Sink.Replaced files rejected
      (((withOutputs files accepted rejected).loudDocuments schema source).map (·.contents))
      finished.files ∧
    ∀ place, files.place? accepted ≠ some place → files.place? rejected ≠ some place →
      finished.files.node? place = files.node? place := by
  obtain ⟨-, hanswers, hreceived, -, -⟩ := received_of_validateSource hrun ⟨rfl, rfl, rfl⟩ rfl
  exact ⟨hanswers, hreceived.twoFiles accepted rejected rfl rfl hapart⟩

/-- Two documents are accepted in place of what was in the file, and one is rejected. -/
theorem validateSource_outputs_both :
    let files : FileSystem := { nodes := [(["ok"], .file (encodeText "old\n"))] }
    let source : Source := .memory [("-", encodeText "\x7b\x7d\n[1]\n\x7b \x7d\n")]
    let start := withOutputs files "ok" "bad"
    (∀ place, files.place? "ok" = some place → files.place? "bad" ≠ some place) ∧
    ∃ finished, start.validateSource {} source = (finished, .ok (.findings 1)) ∧
      (start.cleanDocuments {} source).length = 2 ∧ (start.loudDocuments {} source).length = 1 ∧
      Sink.Replaced files "ok" ((start.cleanDocuments {} source).map (·.contents))
        finished.files ∧
      Sink.Replaced files "bad" ((start.loudDocuments {} source).map (·.contents))
        finished.files := by
  intro files source start
  have hapart := apart_of_ne (by decide +kernel : files.place? "ok" ≠ files.place? "bad")
  have hrun : (start.validateSource {} source).2.toOption = some (.findings 1) := by decide +kernel
  cases hfinished : start.validateSource {} source with
  | mk finished result =>
    rw [hfinished] at hrun
    cases result with
    | error failure => cases hrun
    | ok report =>
      obtain rfl := Option.some.inj hrun
      obtain ⟨-, haccepted, hrejected, -⟩ := validateSource_outputs hapart hfinished
      exact ⟨hapart, finished, rfl, by decide +kernel, by decide +kernel, haccepted, hrejected⟩

/-- **An output file for which no document came is not emptied**: it does not hold the accepted
documents of the run. -/
theorem not_emptied :
    ¬ ∀ (schema : Schema) (source : Source) (files : FileSystem) (accepted rejected : String)
      (finished : Run) (report : Report),
      (∀ place, files.place? accepted = some place → files.place? rejected ≠ some place) →
      (withOutputs files accepted rejected).validateSource schema source = (finished, .ok report) →
      ((files.place? accepted).bind finished.files.contents?).getD [] =
          Sink.lines (((withOutputs files accepted rejected).cleanDocuments schema source).map
            (·.contents)) ∧
        ((files.place? rejected).bind finished.files.contents?).getD [] =
          Sink.lines (((withOutputs files accepted rejected).loudDocuments schema source).map
            (·.contents)) := by
  intro hclaim
  let files : FileSystem := { nodes := [(["ok"], .file (encodeText "old\n"))] }
  let source : Source := .memory [("-", encodeText "[1]\n")]
  let start := withOutputs files "ok" "bad"
  have hapart := apart_of_ne (by decide +kernel : files.place? "ok" ≠ files.place? "bad")
  have hstale : (start.validateSource {} source).2.toOption = some (.findings 1) ∧
      ((files.place? "ok").bind (start.validateSource {} source).1.files.contents?).getD [] =
        encodeText "old\n" ∧
      start.cleanDocuments {} source = [] := by
    decide +kernel
  obtain ⟨hreport, hcontents, hnone⟩ := hstale
  cases hfinished : start.validateSource {} source with
  | mk finished result =>
    rw [hfinished] at hreport hcontents
    cases result with
    | error failure => cases hreport
    | ok report =>
      have hemptied := (hclaim {} source files "ok" "bad" finished report hapart hfinished).1
      rw [hcontents, hnone] at hemptied
      exact absurd hemptied (by decide +kernel)

end Run

end DocumentSchema
