import DocumentSchema.Proofs.Lines.LastRun

/-!
# Two sinks side by side

Two sinks each write to one file. A file is created when the first document comes for it, which
empties it; from then on it is open until its sink is closed. So a file for which a document came
holds the documents that came for it and nothing else, whereas a file for which none came is not
touched (`Sink.Replaced`).

That reading and writing did not fail is known here from steps that succeeded. So these are read
back (`Sink.Writes.add`, `Sink.Writes.close`), where the lemmas about histories of a sink show that
steps succeed.
-/

namespace DocumentSchema

variable {files now after : FileSystem} {path : String} {documents : List Json}

namespace Sink

variable {sink next : Sink} {store : String} {document : Json}

/-! ## A sink with one target -/

theorem of_write_ok {file : OpenFile} (hcurrent : sink.current = some file)
    (h : sink.write files document = (after, next, .ok ())) :
    ∃ written, file.write? files (documentLine document) = some (after, written) ∧
      next = { sink with current := some written } := by
  rw [write, hcurrent] at h
  dsimp only at h
  split at h
  · rename_i hwrite
    obtain ⟨rfl, hnext⟩ := Prod.mk.inj h
    exact ⟨_, hwrite, (Prod.mk.inj hnext).1.symm⟩
  · cases h

/-- A sink whose documents all go to one path has written these to it. -/
structure Writes (files : FileSystem) (path : String) (documents : List Json) (now : FileSystem)
    (sink : Sink) : Prop where
  target : sink.target = toFile path
  /-- No file is opened before there is a document for it, -/
  unopened : documents = [] → sink.current = none
  /-- and the file that is opened then stays open. -/
  opened : documents ≠ [] → ∃ file, sink.current = some file ∧ file.path = path ∧
    files.place? path = some file.place ∧ file.Holds now (lines documents)

theorem writes_nil (files : FileSystem) (path : String) :
    Writes files path [] files { target := toFile path } :=
  ⟨rfl, fun _ ↦ rfl, fun h ↦ absurd rfl h⟩

theorem Writes.frame {place : Place} (h : Writes files path documents now sink)
    (hwritten : FileSystem.WrittenAt place now after) (hplace : files.place? path ≠ some place) :
    Writes files path documents after sink := by
  refine ⟨h.target, h.unopened, fun hdocuments ↦ ?_⟩
  obtain ⟨file, hcurrent, hpath, hfile, hholds⟩ := h.opened hdocuments
  refine ⟨file, hcurrent, hpath, hfile, hholds.of_node?_eq (hwritten.elsewhere _ ?_)⟩
  rintro rfl
  exact hplace hfile

theorem Writes.of_holds {file : OpenFile} (htarget : sink.target = toFile path)
    (hcurrent : sink.current = some file) (hpath : file.path = path)
    (hplace : files.place? path = some file.place)
    (hholds : file.Holds now (lines documents ++ documentLine document)) :
    Writes files path (documents ++ [document]) now sink := by
  refine ⟨htarget, fun hnil ↦ absurd hnil (by simp), fun _ ↦ ⟨file, hcurrent, hpath, hplace, ?_⟩⟩
  rwa [lines, List.flatMap_append, List.flatMap_singleton]

/-- **A document that is taken is written at the place of the path**, after those before it. -/
theorem Writes.add (h : Writes files path documents now sink) (htree : files.SameTree now)
    (hadd : sink.add now store document = (after, next, .ok ())) :
    Writes files path (documents ++ [document]) after next ∧
      ∃ place, files.place? path = some place ∧ FileSystem.WrittenAt place now after := by
  have htarget : sink.target store = path := by rw [h.target, toFile]
  by_cases hdocuments : documents = []
  · have hcurrent := h.unopened hdocuments
    cases hcreate : now.create? (sink.target store) with
    | none =>
      rw [add_of_create?_eq_none hcurrent hcreate] at hadd
      cases hadd
    | some created =>
      obtain ⟨empty, place⟩ := created
      obtain ⟨hplace, hcreated, -⟩ := FileSystem.of_create? hcreate
      rw [htarget, htree.place?_eq] at hplace
      rw [add_of_create? hcurrent hcreate] at hadd
      obtain ⟨written, hwrite, rfl⟩ := of_write_ok rfl hadd
      obtain ⟨hholds, hpath, hwrittenPlace, hwritten⟩ :=
        (OpenFile.holds_of_create? hcreate).write hwrite
      subst hdocuments
      exact ⟨.of_holds h.target rfl (hpath.trans htarget) (by rw [hwrittenPlace, hplace]) hholds,
        place, hplace, hcreated.trans hwritten⟩
  · obtain ⟨file, hcurrent, hpath, hplace, hheld⟩ := h.opened hdocuments
    rw [add_of_isOpen hcurrent (by rw [hpath, htarget, FilePath.same_self])] at hadd
    obtain ⟨written, hwrite, rfl⟩ := of_write_ok hcurrent hadd
    obtain ⟨hholds, hwrittenPath, hwrittenPlace, hwritten⟩ := hheld.write hwrite
    exact ⟨.of_holds h.target rfl (hwrittenPath.trans hpath) (by rw [hwrittenPlace, hplace]) hholds,
      file.place, hplace, hwritten⟩

/-- What closing a sink does: the documents are in the file of its path, if there are any, and
nothing else has changed. -/
structure Closes (files : FileSystem) (path : String) (documents : List Json)
    (now after : FileSystem) : Prop where
  sameTree : now.SameTree after
  elsewhere : ∀ place, files.place? path ≠ some place → after.node? place = now.node? place
  written : documents ≠ [] → ∃ place, files.place? path = some place ∧
    after.node? place = some (FileSystem.overwritten (now.node? place) (lines documents))
  untouched : documents = [] → after = now

/-- **Closing leaves the documents in the file.** -/
theorem Writes.close (h : Writes files path documents now sink)
    (hclose : sink.close now = (after, next, .ok ())) : Closes files path documents now after := by
  rw [Sink.close] at hclose
  by_cases hdocuments : documents = []
  · rw [h.unopened hdocuments] at hclose
    obtain rfl := (Prod.mk.inj hclose).1
    exact ⟨.refl _, fun _ _ ↦ rfl, fun hne ↦ absurd hdocuments hne, fun _ ↦ rfl⟩
  · obtain ⟨file, hcurrent, -, hplace, hholds⟩ := h.opened hdocuments
    rw [hcurrent] at hclose
    dsimp only at hclose
    split at hclose
    · rename_i hflush
      obtain ⟨rfl, -⟩ := Prod.mk.inj hclose
      obtain ⟨-, -, -, hwritten, hnode⟩ := hholds.flush hflush
      refine ⟨hwritten.sameTree, fun place hother ↦ hwritten.elsewhere place ?_,
        fun _ ↦ ⟨file.place, hplace, hnode⟩, fun hnil ↦ absurd hnil hdocuments⟩
      rintro rfl
      exact hother hplace
    · cases hclose

/-! ## Two sinks -/

/-- Two sinks have written these documents to their paths, and nothing else has changed. -/
structure SideBySide (files : FileSystem) (first second : String) (ones others : List Json)
    (now : FileSystem) (one other : Sink) : Prop where
  sameTree : files.SameTree now
  one : Writes files first ones now one
  other : Writes files second others now other
  unchanged : ∀ place, (ones ≠ [] → files.place? first ≠ some place) →
    (others ≠ [] → files.place? second ≠ some place) → now.node? place = files.node? place

variable {first second : String} {ones others : List Json} {one other : Sink}

theorem SideBySide.symm (h : SideBySide files first second ones others now one other) :
    SideBySide files second first others ones now other one :=
  ⟨h.sameTree, h.other, h.one, fun place hother hone ↦ h.unchanged place hone hother⟩

/-- A document for one sink is nothing to the other, if their paths mean different places. -/
theorem SideBySide.add (h : SideBySide files first second ones others now one other)
    (hapart : ∀ place, files.place? first = some place → files.place? second ≠ some place)
    (hadd : one.add now store document = (after, next, .ok ())) :
    SideBySide files first second (ones ++ [document]) others after next other := by
  obtain ⟨hwrites, place, hplace, hwritten⟩ := h.one.add h.sameTree hadd
  refine ⟨h.sameTree.trans hwritten.sameTree, hwrites, h.other.frame hwritten (hapart place hplace),
    fun spot hspot hother ↦ ?_⟩
  have hne : spot ≠ place := by
    rintro rfl
    exact hspot (by simp) hplace
  have hone : ones ≠ [] → files.place? first ≠ some spot := by
    rw [hplace]
    exact fun _ heq ↦ hne (Option.some.inj heq).symm
  exact (hwritten.elsewhere spot hne).trans (h.unchanged spot hone hother)

/-- In the file of a path there are these documents instead of what there was. If there are no
documents, there is what there was. -/
structure Replaced (files : FileSystem) (path : String) (documents : List Json)
    (after : FileSystem) : Prop where
  written : documents ≠ [] → ∃ place, files.place? path = some place ∧
    after.node? place = some (FileSystem.overwritten (files.node? place) (lines documents))
  untouched : documents = [] → ∀ place, files.place? path = some place →
    after.node? place = files.node? place

/-- **Closing both sinks leaves the documents in both files**, and all else as it was. -/
theorem SideBySide.close {between : FileSystem} {last : Sink}
    (h : SideBySide files first second ones others now one other)
    (hapart : ∀ place, files.place? first = some place → files.place? second ≠ some place)
    (hone : one.close now = (between, next, .ok ()))
    (hother : other.close between = (after, last, .ok ())) :
    Replaced files first ones after ∧ Replaced files second others after ∧
      ∀ place, files.place? first ≠ some place → files.place? second ≠ some place →
        after.node? place = files.node? place := by
  have hfirst := h.one.close hone
  have hsecond : Closes files second others between after := by
    refine Writes.close ⟨h.other.target, h.other.unopened, fun hothers ↦ ?_⟩ hother
    obtain ⟨file, hcurrent, hpath, hplace, hholds⟩ := h.other.opened hothers
    exact ⟨file, hcurrent, hpath, hplace,
      hholds.of_node?_eq (hfirst.elsewhere _ fun hsame ↦ hapart _ hsame hplace)⟩
  refine ⟨⟨fun hones ↦ ?_, fun hones place hplace ↦ ?_⟩, ⟨fun hothers ↦ ?_,
    fun hothers place hplace ↦ ?_⟩, fun place hnotFirst hnotSecond ↦ ?_⟩
  · obtain ⟨place, hplace, hnode⟩ := hfirst.written hones
    refine ⟨place, hplace, ?_⟩
    rw [hsecond.elsewhere place (hapart place hplace), hnode, h.sameTree.overwritten_eq]
  · rw [hsecond.elsewhere place (hapart place hplace), hfirst.untouched hones]
    exact h.unchanged place (fun hne ↦ absurd hones hne) fun _ ↦ hapart place hplace
  · obtain ⟨place, hplace, hnode⟩ := hsecond.written hothers
    refine ⟨place, hplace, ?_⟩
    rw [hnode, (h.sameTree.trans hfirst.sameTree).overwritten_eq]
  · have hnotFirst : files.place? first ≠ some place := fun hsame ↦ hapart place hsame hplace
    rw [hsecond.untouched hothers, hfirst.elsewhere place hnotFirst]
    exact h.unchanged place (fun _ ↦ hnotFirst) fun hne ↦ absurd hothers hne
  · rw [hsecond.elsewhere place hnotSecond, hfirst.elsewhere place hnotFirst]
    exact h.unchanged place (fun _ ↦ hnotFirst) fun _ ↦ hnotSecond

end Sink

end DocumentSchema
