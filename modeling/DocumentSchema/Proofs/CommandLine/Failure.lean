import DocumentSchema.Proofs.CommandLine.Delivery

/-!
# How a run fails

A run whose schema has an answer to every document fails only when a store cannot be read or a file
cannot be written. What the documents contain is never a reason.
-/

namespace DocumentSchema

variable {schema : Schema}

/-- Nothing but reading and writing has failed. -/
def OnlyIo {α : Type} (result : Except Failure α) : Prop :=
  ∀ failure, result = .error failure → ∃ reason, failure = .io reason

theorem onlyIo_ok {α : Type} (a : α) : OnlyIo (.ok a) := fun _ ↦ (nomatch ·)

theorem onlyIo_io {α : Type} (reason : String) : OnlyIo (.error (.io reason) : Except Failure α) :=
  fun _ h ↦ ⟨reason, (Except.error.inj h).symm⟩

namespace Sink

theorem onlyIo_close (sink : Sink) (files : FileSystem) : OnlyIo (sink.close files).2.2 := by
  rw [close]
  split
  · exact onlyIo_ok ()
  · split
    · exact onlyIo_ok ()
    · exact onlyIo_io _

theorem onlyIo_switch (sink : Sink) (files : FileSystem) (path : String) :
    OnlyIo (sink.switch files path).2.2 := by
  rw [switch]
  split
  · exact onlyIo_ok ()
  · split
    · rw [openTarget]
      split
      · exact onlyIo_ok ()
      · exact onlyIo_io _
    · exact onlyIo_close sink files

theorem onlyIo_write (sink : Sink) (files : FileSystem) (document : Json) :
    OnlyIo (sink.write files document).2.2 := by
  rw [write]
  split
  · exact onlyIo_ok ()
  · split
    · exact onlyIo_ok ()
    · exact onlyIo_io _

theorem onlyIo_add (sink : Sink) (files : FileSystem) (store : String) (document : Json) :
    OnlyIo (sink.add files store document).2.2 := by
  rw [add]
  split
  · exact onlyIo_write _ _ document
  · exact onlyIo_switch sink files _

end Sink

theorem Store.onlyIo_of_mem_items {store : Store} {first : Nat} {failure : Failure}
    (h : .failure failure ∈ store.items first) : ∃ reason, failure = .io reason := by
  rcases List.mem_append.mp h with hline | hlast
  · obtain ⟨⟨line, number⟩, -, hitem⟩ := List.mem_map.mp hline
    have hitem : Item.ofLine store.name number line = .failure failure := hitem
    rw [Item.ofLine] at hitem
    split at hitem <;> cases hitem
  · split at hlast
    · cases hlast
    · exact ⟨_, Item.failure.inj (List.mem_singleton.mp hlast)⟩

theorem StoreRef.onlyIo_open (files : FileSystem) (store : StoreRef) :
    OnlyIo (store.open files) := by
  rw [StoreRef.open.eq_def]
  split
  · exact onlyIo_ok _
  · split
    · exact onlyIo_io _
    · split
      · exact onlyIo_ok _
      · exact onlyIo_ok _

theorem StoreRef.onlyIo_of_mem_items {files : FileSystem} {store : StoreRef} {first : Nat}
    {failure : Failure} (h : .failure failure ∈ (store.items files first).1) :
    ∃ reason, failure = .io reason := by
  rw [StoreRef.items] at h
  cases hopen : store.open files with
  | error error =>
    rw [hopen] at h
    obtain rfl := Item.failure.inj (List.mem_singleton.mp h)
    exact store.onlyIo_open files _ hopen
  | ok store =>
    rw [hopen] at h
    exact store.onlyIo_of_mem_items h

namespace Run

theorem onlyIo_hand (files : FileSystem) (document : Document) (sink : Option Sink) :
    OnlyIo (hand files document sink).2.2 := by
  cases sink with
  | none => exact onlyIo_ok ()
  | some sink => exact sink.onlyIo_add files document.store document.contents

theorem onlyIo_route (run : Run) (document : Document) (clean : Bool) :
    OnlyIo (run.route document clean).2 := by
  cases clean with
  | true => exact onlyIo_hand run.files document run.accepted
  | false => exact onlyIo_hand run.files document run.rejected

theorem onlyIo_addDocument (hanswers : schema.Answers) (run : Run) (document : Document) :
    OnlyIo (run.addDocument schema document).2 := by
  rw [addDocument, (hanswers document).1]
  dsimp only
  split
  · exact onlyIo_ok ()
  · exact run.onlyIo_route document _

theorem onlyIo_addItems (hanswers : schema.Answers) (run : Run) {items : List Item}
    (hitems : ∀ failure, .failure failure ∈ items → ∃ reason, failure = .io reason) :
    OnlyIo (run.addItems schema items).2 := by
  induction items generalizing run with
  | nil => exact onlyIo_ok ()
  | cons item rest ih =>
    have hrest : ∀ failure, .failure failure ∈ rest → ∃ reason, failure = .io reason :=
      fun failure hfailure ↦ hitems failure (List.mem_cons_of_mem _ hfailure)
    cases item with
    | document document =>
      rw [addItems]
      split
      · exact ih _ hrest
      · exact onlyIo_addDocument hanswers run document
    | malformed message => exact ih _ hrest
    | failure failure =>
      obtain ⟨reason, rfl⟩ := hitems failure List.mem_cons_self
      exact onlyIo_io reason

theorem onlyIo_addStores (hanswers : schema.Answers) (run : Run) (first : Nat)
    (refs : List StoreRef) : OnlyIo (run.addStores schema first refs).2 := by
  induction refs generalizing run first with
  | nil => exact onlyIo_ok ()
  | cons ref rest ih =>
    rw [addStores]
    dsimp only
    split
    · exact ih _ _
    · exact onlyIo_addItems hanswers run fun _ ↦ ref.onlyIo_of_mem_items

theorem onlyIo_finishSink (files : FileSystem) (sink : Option Sink) :
    OnlyIo (finishSink files sink).2 := by
  cases sink with
  | none => exact onlyIo_ok ()
  | some sink => exact sink.onlyIo_close files

theorem onlyIo_finish (run : Run) : OnlyIo run.finish.2 := by
  rw [finish]
  have haccepted := onlyIo_finishSink run.files run.accepted
  generalize finishSink run.files run.accepted = first at haccepted ⊢
  obtain ⟨files, result⟩ := first
  cases result with
  | error failure => exact haccepted
  | ok => exact onlyIo_finishSink files run.rejected

/-- **Nothing but reading and writing can fail**, whatever the documents contain. -/
theorem onlyIo_validateSource (hanswers : schema.Answers) (source : Source) (run : Run) :
    OnlyIo (run.validateSource schema source).2 := by
  rw [validateSource]
  have hstores := onlyIo_addStores hanswers run 1 (source.stores run.files)
  generalize run.addStores schema 1 (source.stores run.files) = step at hstores ⊢
  obtain ⟨after, result⟩ := step
  cases result with
  | error failure => exact fun found hfound ↦ hstores found (congrArg _ (Except.error.inj hfound))
  | ok =>
    have hfinish := onlyIo_finish (after.print after.malformed)
    dsimp only
    intro failure hfailure
    cases hresult : (after.print after.malformed).finish.2 with
    | error found =>
      rw [hresult] at hfailure
      exact hfinish failure (hresult.trans (congrArg _ (Except.error.inj hfailure)))
    | ok =>
      rw [hresult] at hfailure
      cases hfailure

end Run

end DocumentSchema
