import DocumentSchema.CommandLine.Run
import DocumentSchema.Proofs.Lines.SideBySide

/-!
# Handing documents over

Documents come one after the other, and each goes to one of two sinks, which write to the same
files. `Outputs.HandedOver` is that said of the sinks alone: it lists all documents, those for the
first sink and those for the second, and each of its steps adds one document to one of the sinks.
There is no run in it, so it tells what a run gives to its sinks without saying how.

From it follows what the files hold in the end (`Outputs.Received`). A sink that is alone was given
its documents in one go, since nothing else happened to the files, and two sinks with a file each
leave the documents of each in its file.
-/

namespace DocumentSchema

/-- What a sink is given of a document. -/
def Document.delivery (document : Document) : String × Json :=
  (document.store, document.contents)

/-- The files, and the sinks for accepted and for rejected documents, if there are such sinks. -/
structure Outputs where
  files : FileSystem
  accepted : Option Sink
  rejected : Option Sink

namespace Outputs

variable {start last : Outputs} {documents ones others : List Document} {document : Document}
  {files now final : FileSystem} {sink next : Sink}

/-! ## Documents in turns -/

/-- A sink takes a document, if there is a sink. -/
inductive Takes (document : Document) :
    FileSystem → Option Sink → FileSystem → Option Sink → Prop
  | none {files : FileSystem} : Takes document files none files none
  | add {files now : FileSystem} {sink next : Sink}
      (hadd : sink.add files document.store document.contents = (now, next, .ok ())) :
      Takes document files (some sink) now (some next)

/-- All documents are handed over in turns. The first list after all of them is that of the
documents for the sink for accepted documents, the second that of the others. -/
inductive HandedOver :
    Outputs → List Document → List Document → List Document → Outputs → Prop
  | nil (outputs : Outputs) : HandedOver outputs [] [] [] outputs
  | accepted {files now : FileSystem} {accepted next rejected : Option Sink} {document : Document}
      {documents ones others : List Document} {last : Outputs}
      (htakes : Takes document files accepted now next)
      (hrest : HandedOver ⟨now, next, rejected⟩ documents ones others last) :
      HandedOver ⟨files, accepted, rejected⟩ (document :: documents) (document :: ones) others last
  | rejected {files now : FileSystem} {accepted rejected next : Option Sink} {document : Document}
      {documents ones others : List Document} {last : Outputs}
      (htakes : Takes document files rejected now next)
      (hrest : HandedOver ⟨now, accepted, next⟩ documents ones others last) :
      HandedOver ⟨files, accepted, rejected⟩ (document :: documents) ones (document :: others) last

inductive IsClosed : FileSystem → Option Sink → FileSystem → Prop
  | none {files : FileSystem} : IsClosed files none files
  | close {files after : FileSystem} {sink next : Sink}
      (hclose : sink.close files = (after, next, .ok ())) : IsClosed files (some sink) after

def swap (outputs : Outputs) : Outputs := ⟨outputs.files, outputs.rejected, outputs.accepted⟩

theorem HandedOver.swap (h : HandedOver start documents ones others last) :
    HandedOver start.swap documents others ones last.swap := by
  induction h with
  | nil => exact .nil _
  | accepted htakes _ ih => exact .rejected htakes ih
  | rejected htakes _ ih => exact .accepted htakes ih

/-! ## One sink -/

theorem HandedOver.eq_of_none (h : HandedOver start documents ones others last)
    (haccepted : start.accepted = none) (hrejected : start.rejected = none) : last = start := by
  induction h with
  | nil => rfl
  | accepted htakes _ ih =>
    obtain rfl : _ = none := haccepted
    obtain ⟨⟩ := htakes
    exact ih rfl hrejected
  | rejected htakes _ ih =>
    obtain rfl : _ = none := hrejected
    obtain ⟨⟩ := htakes
    exact ih haccepted rfl

/-- A sink without another beside it is given its documents as if they were all that came. -/
theorem HandedOver.addAll_of_alone (h : HandedOver start documents ones others last)
    (haccepted : start.accepted = some sink) (hrejected : start.rejected = none) :
    ∃ next, last.accepted = some next ∧ last.rejected = none ∧
      sink.addAll start.files (ones.map Document.delivery)
        = (last.files, next, ones.map fun _ ↦ .ok ()) := by
  induction h generalizing sink with
  | nil => exact ⟨sink, haccepted, hrejected, rfl⟩
  | accepted htakes _ ih =>
    obtain rfl : _ = some sink := haccepted
    obtain _ | hadd := htakes
    obtain ⟨next, hlast, hnone, hrest⟩ := ih rfl hrejected
    refine ⟨next, hlast, hnone, ?_⟩
    rw [List.map_cons, List.map_cons, Document.delivery, Sink.addAll, hadd]
    simp only [hrest]
  | rejected htakes _ ih =>
    obtain rfl : _ = none := hrejected
    obtain ⟨⟩ := htakes
    exact ih haccepted rfl

/-- What a sink leaves that takes all the documents it is given and is closed. -/
structure LeftBy (sink : Sink) (files : FileSystem) (documents : List Document)
    (final : FileSystem) : Prop where
  taken : (sink.addAll files (documents.map Document.delivery)).2.2 = documents.map fun _ ↦ .ok ()
  left : final = sink.left files (documents.map Document.delivery)

theorem HandedOver.leftBy {between : FileSystem} (h : HandedOver start documents ones others last)
    (haccepted : start.accepted = some sink) (hrejected : start.rejected = none)
    (hone : IsClosed last.files last.accepted between)
    (hother : IsClosed between last.rejected final) : LeftBy sink start.files ones final := by
  obtain ⟨next, hnext, hnone, hall⟩ := h.addAll_of_alone haccepted hrejected
  rw [hnext] at hone
  rw [hnone] at hother
  obtain _ | hclose := hone
  obtain ⟨⟩ := hother
  refine ⟨by rw [hall], ?_⟩
  rw [Sink.left, hall, Sink.drop, hclose]

/-! ## Two files -/

section Files

variable {first second : String} {given kept : List Json}

/-- Both sinks have written these documents, each to its file. -/
def Hold (files : FileSystem) (first second : String) (ones others : List Json)
    (outputs : Outputs) : Prop :=
  ∃ one other, outputs.accepted = some one ∧ outputs.rejected = some other ∧
    Sink.SideBySide files first second ones others outputs.files one other

theorem Hold.swap {outputs : Outputs} (h : Hold files first second given kept outputs) :
    Hold files second first kept given outputs.swap := by
  obtain ⟨one, other, hone, hother, hsinks⟩ := h
  exact ⟨other, one, hother, hone, hsinks.symm⟩

theorem Hold.take {accepted after rejected : Option Sink}
    (h : Hold files first second given kept ⟨now, accepted, rejected⟩)
    (hapart : ∀ place, files.place? first = some place → files.place? second ≠ some place)
    (htakes : Takes document now accepted final after) :
    Hold files first second (given ++ [document.contents]) kept ⟨final, after, rejected⟩ := by
  obtain ⟨one, other, rfl, hother, hsinks⟩ := h
  obtain _ | hadd := htakes
  exact ⟨_, other, rfl, hother, hsinks.add hapart hadd⟩

/-- **Each file gets the documents of its sink**, whatever comes in between for the other. -/
theorem HandedOver.hold (h : HandedOver start documents ones others last)
    (hapart : ∀ place, files.place? first = some place → files.place? second ≠ some place)
    (hstart : Hold files first second given kept start) :
    Hold files first second (given ++ ones.map (·.contents)) (kept ++ others.map (·.contents))
      last := by
  induction h generalizing given kept with
  | nil => simpa using hstart
  | accepted htakes _ ih => simpa using ih (hstart.take hapart htakes)
  | rejected htakes _ ih =>
    have happartSwapped : ∀ place, files.place? second = some place →
        files.place? first ≠ some place :=
      fun place hsecond hfirst ↦ hapart place hfirst hsecond
    simpa using ih (hstart.swap.take happartSwapped htakes).swap

theorem Hold.replaced {between : FileSystem} (h : Hold files first second given kept last)
    (hapart : ∀ place, files.place? first = some place → files.place? second ≠ some place)
    (hone : IsClosed last.files last.accepted between)
    (hother : IsClosed between last.rejected final) :
    Sink.Replaced files first given final ∧ Sink.Replaced files second kept final ∧
      ∀ place, files.place? first ≠ some place → files.place? second ≠ some place →
        final.node? place = files.node? place := by
  obtain ⟨one, other, haccepted, hrejected, hsinks⟩ := h
  rw [haccepted] at hone
  rw [hrejected] at hother
  obtain _ | hone := hone
  obtain _ | hother := hother
  exact hsinks.close hapart hone hother

theorem hold_ofPath? (haccepted : start.accepted = Sink.ofPath? (some first))
    (hrejected : start.rejected = Sink.ofPath? (some second)) :
    Hold start.files first second [] [] start :=
  ⟨_, _, haccepted, hrejected, .refl _, Sink.writes_nil .., Sink.writes_nil .., fun _ _ _ ↦ rfl⟩

end Files

/-! ## What was received -/

/-- All documents were handed over in order, and both sinks were closed. -/
structure Received (start : Outputs) (documents ones others : List Document)
    (final : FileSystem) : Prop where
  /-- Each document was added to its sink when its turn came, and every addition and the closing
  succeeded. -/
  inTurns : ∃ last between, HandedOver start documents ones others last ∧
    IsClosed last.files last.accepted between ∧ IsClosed between last.rejected final
  /-- Without sinks the files are as they were. -/
  noSink : start.accepted = none → start.rejected = none → final = start.files
  /-- A sink that is alone was given its documents, and the files are as it leaves them. -/
  acceptedAlone : ∀ sink, start.accepted = some sink → start.rejected = none →
    LeftBy sink start.files ones final
  rejectedAlone : ∀ sink, start.accepted = none → start.rejected = some sink →
    LeftBy sink start.files others final
  /-- Two files at different places hold the documents of their sinks, and all else is as it was. -/
  twoFiles : ∀ first second, start.accepted = Sink.ofPath? (some first) →
    start.rejected = Sink.ofPath? (some second) →
    (∀ place, start.files.place? first = some place → start.files.place? second ≠ some place) →
    Sink.Replaced start.files first (ones.map (·.contents)) final ∧
      Sink.Replaced start.files second (others.map (·.contents)) final ∧
      ∀ place, start.files.place? first ≠ some place → start.files.place? second ≠ some place →
        final.node? place = start.files.node? place

/-- **What was handed over was received.** -/
theorem HandedOver.received {between : FileSystem} (h : HandedOver start documents ones others last)
    (hone : IsClosed last.files last.accepted between)
    (hother : IsClosed between last.rejected final) :
    Received start documents ones others final where
  inTurns := ⟨last, between, h, hone, hother⟩
  noSink haccepted hrejected := by
    obtain rfl := h.eq_of_none haccepted hrejected
    rw [haccepted] at hone
    rw [hrejected] at hother
    obtain ⟨⟩ := hone
    obtain ⟨⟩ := hother
    rfl
  acceptedAlone sink haccepted hrejected := h.leftBy haccepted hrejected hone hother
  rejectedAlone sink haccepted hrejected := by
    have hsink : start.swap.accepted = some sink := hrejected
    obtain ⟨-, -, hnone, -⟩ := h.swap.addAll_of_alone hsink haccepted
    have hnone : last.accepted = none := hnone
    rw [hnone] at hone
    obtain ⟨⟩ := hone
    have hclosed : IsClosed final last.accepted final := hnone ▸ .none
    exact h.swap.leftBy hsink haccepted hother hclosed
  twoFiles first second haccepted hrejected hapart := by
    have hhold := h.hold hapart (hold_ofPath? haccepted hrejected)
    rw [List.nil_append, List.nil_append] at hhold
    exact hhold.replaced hapart hone hother

end Outputs

end DocumentSchema
