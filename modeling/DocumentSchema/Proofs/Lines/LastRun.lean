import DocumentSchema.Proofs.Lines.OpenFile
import Mathlib.Data.List.DropRight

/-!
# What a sink leaves

A sink is told by the history of what was added to it: to which path each document was to go, and
what became of it. A document goes on the open file if the one before it went to the same path, and
to a new file otherwise, which empties what was at the path. So a file holds the last run of
documents in a row that went to its path (`Sink.lastRun`), whatever was there before.

`Sink.Tracks` says what the files and the open file hold of a history. There are four ways on: the
open file is closed, a document is written to the open file, a document is written to a new file,
and a target is refused. Each of them preserves it.

Two paths are the same path if they have the same components, whereas the file system goes by
places. Paths that mean a place mean the same one if they are the same (`place?_eq_of_same`); that
different paths mean different places is asked for (`FileSystem.Distinct`).
-/

namespace DocumentSchema

namespace FileSystem

variable {files after : FileSystem} {first second path : String} {place other : Place}

/-! ## Places of one path -/

/-- The place that components lead to, if nothing is in the way. -/
def follow : Place → List FilePath.Component → Place
  | place, [] => place
  | place, .name text :: rest => follow (place ++ [text]) rest
  | place, .up :: rest => follow place.dropLast rest
  | place, _ :: rest => follow place rest

theorem eq_follow_of_walk {parts : List String} (h : files.walk place parts = some other) :
    other = follow place (parts.filterMap FilePath.component?) := by
  induction parts generalizing place with
  | nil => exact (Option.some.inj h).symm
  | cons part rest ih =>
    rw [walk] at h
    split at h
    · cases h
    · split at h
      · rename_i text hpart
        split at h
        · rw [List.filterMap_cons_some hpart, follow]
          exact ih h
        · cases h
      · rename_i hpart
        rw [List.filterMap_cons_some hpart, follow]
        exact ih h
      · rename_i hname hup
        cases hpart : FilePath.component? part with
        | none =>
          rw [List.filterMap_cons_none hpart]
          exact ih h
        | some component =>
          rw [List.filterMap_cons_some hpart]
          cases component with
          | name text => exact absurd hpart (hname text)
          | up => exact absurd hpart hup
          | root | here => exact ih h

theorem root_notMem_parts (path : String) :
    .root ∉ (FilePath.parts path).filterMap FilePath.component? := by
  rw [List.mem_filterMap]
  rintro ⟨part, -, hpart⟩
  unfold FilePath.component? at hpart
  split at hpart
  · cases hpart
  · split at hpart <;> cases hpart

theorem eq_follow_of_place? (h : files.place? path = some place) :
    place = follow (if .root ∈ FilePath.components path then [] else files.workingDirectory)
      (FilePath.components path) := by
  have hroot := root_notMem_parts path
  rw [place?] at h
  split at h
  · cases h
  · rw [eq_follow_of_walk h, FilePath.components]
    by_cases habsolute : FilePath.isAbsolute path = true
    · simp [habsolute, follow]
    · by_cases hhere : (FilePath.parts path).head? = some "."
      · simp [habsolute, hhere, hroot, follow]
      · simp [habsolute, hhere, hroot]

/-- **Two spellings of one path mean one place.** -/
theorem place?_eq_of_same (h : FilePath.same first second = true)
    (hfirst : files.place? first = some place) (hsecond : files.place? second = some other) :
    place = other := by
  rw [eq_follow_of_place? hfirst, eq_follow_of_place? hsecond, (FilePath.same_iff ..).mp h]

theorem SameTree.overwritten_eq (h : files.SameTree after) (place : Place) (octets : Octets) :
    overwritten (after.node? place) octets = overwritten (files.node? place) octets := by
  have hdevice := h.device place
  unfold overwritten
  split
  · rename_i full hafter
    rw [(hdevice full).mp hafter]
  · rename_i hafter
    split
    · rename_i full hbefore
      exact absurd ((hdevice full).mpr hbefore) (hafter full)
    · rfl

/-- Different paths mean different places, and nothing that a path means refuses octets. -/
structure Distinct (files : FileSystem) (paths : List String) : Prop where
  same : ∀ first ∈ paths, ∀ second ∈ paths, ∀ place, files.place? first = some place →
    files.place? second = some place → FilePath.same first second = true
  notFull : ∀ path ∈ paths, ∀ place, files.place? path = some place →
    files.node? place ≠ some (.device true)

theorem distinct_iff {paths : List String} : files.Distinct paths ↔
    (∀ first ∈ paths, ∀ second ∈ paths, files.place? first = files.place? second →
      files.place? first = none ∨ FilePath.same first second = true) ∧
    ∀ path ∈ paths, files.find? path ≠ some (.device true) := by
  constructor
  · intro h
    refine ⟨fun first hfirst second hsecond hplace ↦ ?_, fun path hpath ↦ ?_⟩
    · cases hfound : files.place? first with
      | none => exact .inl rfl
      | some place => exact .inr (h.same _ hfirst _ hsecond _ hfound (hplace.symm.trans hfound))
    · cases hfound : files.place? path with
      | none => simp [find?, hfound]
      | some place => simpa [find?, hfound] using h.notFull _ hpath _ hfound
  · rintro ⟨hsame, hfull⟩
    refine ⟨fun first hfirst second hsecond place hplace hother ↦ ?_,
      fun path hpath place hplace ↦ ?_⟩
    · exact (hsame _ hfirst _ hsecond (hplace.trans hother.symm)).resolve_left (by simp [hplace])
    · simpa [find?, hplace] using hfull path hpath

instance (files : FileSystem) (paths : List String) : Decidable (files.Distinct paths) :=
  decidable_of_iff _ distinct_iff.symm

theorem Distinct.place_ne {paths : List String} (h : files.Distinct paths) (hfirst : first ∈ paths)
    (hsecond : second ∈ paths) (hsame : FilePath.same first second = false)
    (hplace : files.place? first = some place) (hother : files.place? second = some other) :
    other ≠ place := by
  rintro rfl
  exact Bool.false_ne_true (hsame.symm.trans (h.same _ hfirst _ hsecond _ hplace hother))

theorem Distinct.of_subset {paths more : List String} (h : files.Distinct more)
    (hsubset : paths ⊆ more) : files.Distinct paths where
  same first hfirst second hsecond := h.same first (hsubset hfirst) second (hsubset hsecond)
  notFull path hpath := h.notFull path (hsubset hpath)

end FileSystem

namespace Sink

/-! ## Histories -/

/-- A document that was added: the path it was to go to, and what became of it. -/
structure Added where
  path : String
  document : Json
  result : Except Failure Unit

/-- The document was written to the file of a path. -/
def Added.wentTo (path : String) (added : Added) : Bool :=
  FilePath.same added.path path && added.result.isOk

def lastWentTo (history : List Added) (path : String) : Bool :=
  history.getLast?.any (·.wentTo path)

/-- The last documents in a row that went to the file of a path. What was to go elsewhere or failed
comes between two runs. -/
def lastRun (history : List Added) (path : String) : List Json :=
  ((history.rdropWhile (!·.wentTo path)).rtakeWhile (·.wentTo path)).map (·.document)

/-- The history of a sink to which documents with their stores are added. -/
def history (sink : Sink) (files : FileSystem) (adds : List (String × Json)) : List Added :=
  (adds.zip (sink.addAll files adds).2.2).map fun ((store, document), result) ↦
    ⟨sink.target store, document, result⟩

/-- The files after documents are added and the sink is given up. -/
def left (sink : Sink) (files : FileSystem) (adds : List (String × Json)) : FileSystem :=
  (sink.addAll files adds).2.1.drop (sink.addAll files adds).1

variable {past : List Added} {added : Added} {path other : String}

theorem Added.wentTo_congr (h : FilePath.same path other = true) (added : Added) :
    added.wentTo path = added.wentTo other := by
  unfold wentTo FilePath.same
  rw [(FilePath.same_iff ..).mp h]

theorem lastRun_congr (h : FilePath.same path other = true) (past : List Added) :
    lastRun past path = lastRun past other := by
  simp only [lastRun, Added.wentTo_congr h]

theorem lastRun_append_elsewhere (h : added.wentTo path = false) :
    lastRun (past ++ [added]) path = lastRun past path := by
  rw [lastRun, List.rdropWhile_concat_pos _ _ _ (by simp [h]), lastRun]

theorem lastRun_append_of_last (h : added.wentTo path = true)
    (hlast : lastWentTo past path = true) :
    lastRun (past ++ [added]) path = lastRun past path ++ [added.document] := by
  obtain ⟨before, last, rfl⟩ : ∃ before last, past = before ++ [last] := by
    rcases past.eq_nil_or_concat with rfl | ⟨before, last, rfl⟩
    · cases hlast
    · exact ⟨before, last, by simp⟩
  have hwent : last.wentTo path = true := by simpa [lastWentTo] using hlast
  rw [lastRun, lastRun, List.rdropWhile_concat_neg _ _ _ (by simp [h]),
    List.rdropWhile_concat_neg _ _ _ (by simp [hwent]), List.rtakeWhile_concat_pos _ _ _ h,
    List.map_append, List.map_singleton]

theorem lastRun_append_of_not_last (h : added.wentTo path = true)
    (hlast : lastWentTo past path = false) :
    lastRun (past ++ [added]) path = [added.document] := by
  have hnone : past.rtakeWhile (·.wentTo path) = [] := by
    rcases past.eq_nil_or_concat with rfl | ⟨before, last, rfl⟩
    · rfl
    · rw [List.concat_eq_append]
      exact List.rtakeWhile_concat_neg _ _ _ (by simpa [lastWentTo] using hlast)
  rw [lastRun, List.rdropWhile_concat_neg _ _ _ (by simp [h]), List.rtakeWhile_concat_pos _ _ _ h,
    hnone, List.nil_append, List.map_singleton]

/-! ## Adding -/

variable {files now : FileSystem} {sink : Sink} {file : OpenFile} {octets : Octets} {store : String}
  {document : Json}

theorem isOpen_eq_false (h : sink.current = none) (path : String) : sink.isOpen path = false := by
  rw [isOpen, h]

theorem isOpen_of_some (h : sink.current = some file) (path : String) :
    sink.isOpen path = FilePath.same file.path path := by
  rw [isOpen, h]

theorem switch_of_none (h : sink.current = none) (files : FileSystem) (path : String) :
    sink.switch files path = sink.openTarget files path := by
  simp only [switch, isOpen_eq_false h, Bool.false_eq_true, if_false, close, h]

/-- If the target is not open, the sink is closed and goes on as one with no open file. -/
theorem add_of_not_isOpen (h : sink.isOpen (sink.target store) = false)
    (hclose : sink.close files = (now, { sink with current := none }, .ok ())) (document : Json) :
    sink.add files store document =
      ({ sink with current := none } : Sink).add now store document := by
  have hclosed : ({ sink with current := none } : Sink).current = none := rfl
  rw [add, add, switch_of_none hclosed, switch, h, hclose]
  rfl

theorem add_of_isOpen (hcurrent : sink.current = some file)
    (hsame : FilePath.same file.path (sink.target store) = true) (document : Json) :
    sink.add files store document = sink.write files document := by
  simp only [add, switch, isOpen_of_some hcurrent, hsame, if_true]

theorem add_of_create? {place : Place} (hcurrent : sink.current = none)
    (hcreate : files.create? (sink.target store) = some (now, place)) (document : Json) :
    sink.add files store document =
      ({ sink with current := some { path := sink.target store, place } } : Sink).write now
        document := by
  simp only [add, switch_of_none hcurrent, openTarget, hcreate]

theorem exists_add_of_isOpen (hcurrent : sink.current = some file)
    (hsame : FilePath.same file.path (sink.target store) = true) (h : file.Holds files octets)
    (hfull : files.node? file.place ≠ some (.device true)) (document : Json) :
    ∃ now next, sink.add files store document = (now, { sink with current := some next }, .ok ()) ∧
      next.Holds now (octets ++ documentLine document) ∧ next.path = file.path ∧
      next.place = file.place ∧ FileSystem.WrittenAt file.place files now := by
  obtain ⟨now, next, hwrite⟩ := h.exists_write hfull (documentLine document)
  refine ⟨now, next, ?_, h.write hwrite⟩
  rw [add_of_isOpen hcurrent hsame]
  simp only [write, hcurrent, hwrite]

theorem exists_add_of_create? {place : Place} (hcurrent : sink.current = none)
    (hcreate : files.create? (sink.target store) = some (now, place))
    (hfull : files.node? place ≠ some (.device true)) (document : Json) :
    ∃ after next, sink.add files store document =
        (after, { sink with current := some next }, .ok ()) ∧
      next.Holds after (documentLine document) ∧ next.path = sink.target store ∧
      next.place = place ∧ FileSystem.WrittenAt place files after := by
  obtain ⟨-, hcreated, -⟩ := FileSystem.of_create? hcreate
  have hholds := OpenFile.holds_of_create? hcreate
  have hfull : now.node? place ≠ some (.device true) :=
    mt (hcreated.sameTree.device place true).mp hfull
  obtain ⟨after, next, hwrite⟩ := hholds.exists_write hfull (documentLine document)
  obtain ⟨hnext, hpath, hplace, hwritten⟩ := hholds.write hwrite
  refine ⟨after, next, ?_, hnext, hpath, hplace, hcreated.trans hwritten⟩
  rw [add_of_create? hcurrent hcreate]
  simp only [write, hwrite]

theorem add_of_create?_eq_none (hcurrent : sink.current = none)
    (hcreate : files.create? (sink.target store) = none) (document : Json) :
    sink.add files store document = (files, sink, failed (sink.target store)) := by
  simp only [add, switch_of_none hcurrent, openTarget, hcreate, failed]

theorem addAll_append (sink : Sink) (files : FileSystem) (adds : List (String × Json))
    (store : String) (document : Json) :
    sink.addAll files (adds ++ [(store, document)]) =
      (((sink.addAll files adds).2.1.add (sink.addAll files adds).1 store document).1,
        ((sink.addAll files adds).2.1.add (sink.addAll files adds).1 store document).2.1,
        (sink.addAll files adds).2.2 ++
          [((sink.addAll files adds).2.1.add (sink.addAll files adds).1 store document).2.2]) := by
  induction adds generalizing sink files with
  | nil => rfl
  | cons first rest ih => simp only [List.cons_append, addAll, ih]

theorem length_addAll (sink : Sink) (files : FileSystem) (adds : List (String × Json)) :
    (sink.addAll files adds).2.2.length = adds.length := by
  induction adds generalizing sink files with
  | nil => rfl
  | cons first rest ih => simp only [addAll, List.length_cons, ih]

theorem history_append (sink : Sink) (files : FileSystem) (adds : List (String × Json))
    (store : String) (document : Json) :
    sink.history files (adds ++ [(store, document)]) = sink.history files adds ++
      [⟨sink.target store, document,
        ((sink.addAll files adds).2.1.add (sink.addAll files adds).1 store document).2.2⟩] := by
  rw [history, addAll_append, List.zip_append (length_addAll ..).symm, List.map_append]
  rfl

theorem map_path_history (sink : Sink) (files : FileSystem) (adds : List (String × Json)) :
    (sink.history files adds).map (·.path) = adds.map fun (store, _) ↦ sink.target store := by
  rw [history, List.map_map]
  have hzip : (adds.zip (sink.addAll files adds).2.2).map Prod.fst = adds :=
    List.map_fst_zip (length_addAll ..).ge
  conv_rhs => rw [← hzip, List.map_map]
  rfl

/-! ## What the files and the open file hold of a history -/

def lines (documents : List Json) : Octets := documents.flatMap documentLine

/-- The files, and the file that is open, hold the last runs of a history. The open file is that of
some add of the history, and what it holds is in part still to be written. -/
structure Tracks (files : FileSystem) (past : List Added) (now : FileSystem) (sink : Sink) :
    Prop where
  sameTree : files.SameTree now
  opened : ∀ file, sink.current = some file →
    (∃ added ∈ past, added.result.isOk ∧ added.path = file.path) ∧
      files.place? file.path = some file.place ∧ lastWentTo past file.path = true ∧
      file.Holds now (lines (lastRun past file.path))
  created : ∀ added ∈ past, added.result.isOk → sink.isOpen added.path = false →
    ∀ place, files.place? added.path = some place → now.node? place =
      some (FileSystem.overwritten (files.node? place) (lines (lastRun past added.path)))
  unchanged : ∀ place, (∀ added ∈ past, added.result.isOk → files.place? added.path ≠ some place) →
    now.node? place = files.node? place

namespace Tracks

theorem notFull (h : Tracks files past now sink) (hdistinct : files.Distinct (past.map (·.path)))
    (hcurrent : sink.current = some file) : now.node? file.place ≠ some (.device true) := by
  obtain ⟨⟨added, hadded, -, hpath⟩, hplace, -⟩ := h.opened file hcurrent
  have hmem : file.path ∈ past.map (·.path) := hpath ▸ List.mem_map_of_mem hadded
  exact mt (h.sameTree.device _ _).mp (hdistinct.notFull _ hmem _ hplace)

/-- Closing writes what the open file holds, so that every file has its last run. -/
theorem exists_close (h : Tracks files past now sink)
    (hdistinct : files.Distinct (past.map (·.path))) :
    ∃ closed, sink.close now = (closed, { sink with current := none }, .ok ()) ∧
      Tracks files past closed { sink with current := none } := by
  cases hcurrent : sink.current with
  | none =>
    have hsink : ({ sink with current := none } : Sink) = sink := by rw [← hcurrent]
    exact ⟨now, by rw [hsink, close, hcurrent], by rwa [hsink]⟩
  | some file =>
    obtain ⟨⟨opener, hopener, hopened, hpath⟩, hplace, -, hholds⟩ := h.opened file hcurrent
    have hmem : file.path ∈ past.map (·.path) := hpath ▸ List.mem_map_of_mem hopener
    obtain ⟨closed, next, hflush⟩ := hholds.exists_flush (h.notFull hdistinct hcurrent)
    obtain ⟨-, -, -, hwritten, hnode⟩ := hholds.flush hflush
    refine ⟨closed, by simp only [close, hcurrent, hflush], h.sameTree.trans hwritten.sameTree,
      nofun, fun added hadded hok _ place haddedPlace ↦ ?_, fun place hplaces ↦ ?_⟩
    · cases hsame : FilePath.same file.path added.path with
      | true =>
        obtain rfl := FileSystem.place?_eq_of_same hsame hplace haddedPlace
        rw [hnode, h.sameTree.overwritten_eq, lastRun_congr hsame]
      | false =>
        rw [hwritten.elsewhere place
          (hdistinct.place_ne hmem (List.mem_map_of_mem hadded) hsame hplace haddedPlace)]
        exact h.created added hadded hok ((isOpen_of_some hcurrent _).trans hsame) place haddedPlace
    · have hne : place ≠ file.place := by
        rintro rfl
        exact hplaces opener hopener hopened (hpath ▸ hplace)
      rw [hwritten.elsewhere place hne, h.unchanged place hplaces]

/-- What is written to a file that is open next, and was so before if any file was, is tracked if
that file holds the last run of its path. -/
theorem of_written {next : OpenFile} {after : FileSystem} (h : Tracks files past now sink)
    (hdistinct : files.Distinct ((past ++ [added]).map (·.path)))
    (hopen : ∀ path, FilePath.same next.path path = false → sink.isOpen path = false)
    (hopener : ∃ opener ∈ past ++ [added], opener.result.isOk ∧ opener.path = next.path)
    (hplace : files.place? next.path = some next.place)
    (hwent : added.wentTo next.path = true)
    (hholds : next.Holds after (lines (lastRun (past ++ [added]) next.path)))
    (hwritten : FileSystem.WrittenAt next.place now after) :
    Tracks files (past ++ [added]) after { sink with current := some next } := by
  obtain ⟨opener, hopener, hopened, hpath⟩ := hopener
  have hmem : next.path ∈ (past ++ [added]).map (·.path) := hpath ▸ List.mem_map_of_mem hopener
  refine ⟨h.sameTree.trans hwritten.sameTree, ?_, fun other hother hok hnot place hotherPlace ↦ ?_,
    fun place hplaces ↦ ?_⟩
  · rintro _ ⟨⟩
    exact ⟨⟨opener, hopener, hopened, hpath⟩, hplace, by simpa [lastWentTo] using hwent, hholds⟩
  · have hsame : FilePath.same next.path other.path = false := hnot
    have helsewhere : added.wentTo other.path = false := by
      rw [Added.wentTo, Bool.and_eq_true, FilePath.same_iff] at hwent
      rw [Added.wentTo, FilePath.same, hwent.1, ← FilePath.same, hsame, Bool.false_and]
    have hpast : other ∈ past := by
      rcases List.mem_append.mp hother with hpast | hlast
      · exact hpast
      · obtain rfl := List.mem_singleton.mp hlast
        rw [Added.wentTo, FilePath.same_self, Bool.true_and, hok] at helsewhere
        cases helsewhere
    rw [hwritten.elsewhere place
        (hdistinct.place_ne hmem (List.mem_map_of_mem hother) hsame hplace hotherPlace),
      lastRun_append_elsewhere helsewhere]
    exact h.created other hpast hok (hopen _ hsame) place hotherPlace
  · have hne : place ≠ next.place := by
      rintro rfl
      exact hplaces opener hopener hopened (hpath ▸ hplace)
    rw [hwritten.elsewhere place hne]
    exact h.unchanged place fun other hother ↦ hplaces other (List.mem_append_left _ hother)

theorem of_refused (h : Tracks files past now sink) (hcurrent : sink.current = none)
    (hrefused : added.result.isOk = false) : Tracks files (past ++ [added]) now sink := by
  have helsewhere (path : String) : added.wentTo path = false := by
    rw [Added.wentTo, hrefused, Bool.and_false]
  refine ⟨h.sameTree, fun file hfile ↦ ?_, fun other hother hok hnot place hplace ↦ ?_,
    fun place hplaces ↦ ?_⟩
  · rw [hcurrent] at hfile
    cases hfile
  · rcases List.mem_append.mp hother with hpast | hlast
    · rw [lastRun_append_elsewhere (helsewhere _)]
      exact h.created other hpast hok hnot place hplace
    · obtain rfl := List.mem_singleton.mp hlast
      rw [hrefused] at hok
      cases hok
  · exact h.unchanged place fun other hother ↦ hplaces other (List.mem_append_left _ hother)

end Tracks

/-! ## One more document -/

theorem lastWentTo_append (past : List Added) (added : Added) (path : String) :
    lastWentTo (past ++ [added]) path = added.wentTo path := by
  simp [lastWentTo]

/-- What an add does to a sink that tracks a history. The document is refused if its target is not
open and cannot be created: then the sink is left as it is without an open file. -/
structure Goes (files : FileSystem) (past : List Added) (now : FileSystem) (sink : Sink)
    (store : String) (document : Json) : Prop where
  tracks : Tracks files
    (past ++ [⟨sink.target store, document, (sink.add now store document).2.2⟩])
    (sink.add now store document).1 (sink.add now store document).2.1
  target : (sink.add now store document).2.1.target = sink.target
  isOpen : ∀ path, (sink.add now store document).2.1.isOpen path =
    Added.wentTo path ⟨sink.target store, document, (sink.add now store document).2.2⟩
  accepted : lastWentTo past (sink.target store) = true ∨ files.create? (sink.target store) ≠ none →
    (sink.add now store document).2.2 = .ok ()
  refused : lastWentTo past (sink.target store) = false → files.create? (sink.target store) = none →
    sink.add now store document =
      (sink.drop now, { sink with current := none }, failed (sink.target store))

theorem Tracks.goes_of_last (h : Tracks files past now sink)
    (hdistinct : files.Distinct (past.map (·.path) ++ [sink.target store]))
    (hcurrent : sink.current = some file)
    (hsame : FilePath.same file.path (sink.target store) = true)
    (hlast : lastWentTo past (sink.target store) = true) (document : Json) :
    Goes files past now sink store document := by
  obtain ⟨⟨opener, hopener, hopened, hpath⟩, hplace, hlastOpen, hholds⟩ := h.opened file hcurrent
  obtain ⟨after, next, hadd, hnext, hnextPath, hnextPlace, hwritten⟩ :=
    exists_add_of_isOpen hcurrent hsame hholds
      (h.notFull (hdistinct.of_subset (List.subset_append_left ..)) hcurrent) document
  have hcomponents := (FilePath.same_iff ..).mp hsame
  have hwent (path : String) :
      Added.wentTo path ⟨sink.target store, document, .ok ()⟩ = FilePath.same file.path path := by
    simp [Added.wentTo, FilePath.same, hcomponents, Except.isOk, Except.toBool]
  refine ⟨?_, by rw [hadd], fun path ↦ ?_, fun _ ↦ by rw [hadd], fun hnot ↦ ?_⟩
  · rw [hadd]
    refine h.of_written (by simpa using hdistinct) (fun path hpathSame ↦ ?_)
      ⟨opener, List.mem_append_left _ hopener, hopened, hpath.trans hnextPath.symm⟩
      (by rw [hnextPath, hnextPlace, hplace]) (by rw [hnextPath, hwent, FilePath.same_self]) ?_
      (hnextPlace ▸ hwritten)
    · rw [isOpen_of_some hcurrent, ← hnextPath, hpathSame]
    · rw [hnextPath, lastRun_append_of_last (by rw [hwent, FilePath.same_self]) hlastOpen, lines,
        List.flatMap_append, List.flatMap_singleton]
      exact hnext
  · rw [hadd, hwent, ← hnextPath]
    exact isOpen_of_some rfl path
  · rw [hlast] at hnot
    cases hnot

/-- The target is not open: with the open file closed, it is created or refused. -/
theorem Tracks.goes_of_not_last (h : Tracks files past now sink)
    (hdistinct : files.Distinct (past.map (·.path) ++ [sink.target store]))
    (hnot : sink.isOpen (sink.target store) = false)
    (hlast : lastWentTo past (sink.target store) = false) (document : Json) :
    Goes files past now sink store document := by
  obtain ⟨closed, hclose, htracks⟩ :=
    h.exists_close (hdistinct.of_subset (List.subset_append_left ..))
  have hadd := add_of_not_isOpen hnot hclose document
  have hdrop : sink.drop now = closed := by rw [drop, hclose]
  have hcreatable : closed.create? (sink.target store) = none ↔
      files.create? (sink.target store) = none := htracks.sameTree.create?_eq_none_iff
  have hclosed : ({ sink with current := none } : Sink).current = none := rfl
  cases hcreate : closed.create? (sink.target store) with
  | none =>
    rw [add_of_create?_eq_none hclosed hcreate] at hadd
    have hwent (path : String) :
        Added.wentTo path ⟨sink.target store, document, failed (sink.target store)⟩ = false :=
      Bool.and_false _
    refine ⟨?_, by rw [hadd], fun path ↦ ?_, fun haccepted ↦ ?_, fun _ _ ↦ by rw [hadd, hdrop]⟩
    · rw [hadd]
      exact htracks.of_refused rfl rfl
    · rw [hadd, hwent]
      exact isOpen_eq_false rfl path
    · exact absurd (hcreatable.mp hcreate) (haccepted.resolve_left (by simp [hlast]))
  | some created =>
    obtain ⟨empty, place⟩ := created
    obtain ⟨hplaceClosed, -⟩ := FileSystem.of_create? hcreate
    have hplace : files.place? (sink.target store) = some place := by
      rw [← htracks.sameTree.place?_eq, hplaceClosed]
    have hfull : closed.node? place ≠ some (.device true) :=
      mt (htracks.sameTree.device _ _).mp (hdistinct.notFull _ (by simp) _ hplace)
    obtain ⟨after, next, hwrite, hnext, hnextPath, hnextPlace, hwritten⟩ :=
      exists_add_of_create? hclosed hcreate hfull document
    rw [hwrite] at hadd
    have hwent (path : String) : Added.wentTo path ⟨sink.target store, document, .ok ()⟩ =
        FilePath.same next.path path := by
      simp [Added.wentTo, hnextPath, Except.isOk, Except.toBool]
    refine ⟨?_, by rw [hadd], fun path ↦ ?_, fun _ ↦ by rw [hadd], fun _ hnone ↦ ?_⟩
    · rw [hadd]
      refine htracks.of_written (by simpa using hdistinct) (fun _ _ ↦ isOpen_eq_false rfl _)
        ⟨_, List.mem_append_right _ (List.mem_singleton_self _), rfl, hnextPath.symm⟩
        (by rw [hnextPath, hnextPlace, hplace]) (by rw [hwent, FilePath.same_self]) ?_
        (hnextPlace ▸ hwritten)
      rw [lastRun_append_of_not_last (by rw [hwent, FilePath.same_self]) (hnextPath ▸ hlast), lines,
        List.flatMap_singleton]
      exact hnext
    · rw [hadd, hwent]
      exact isOpen_of_some rfl path
    · rw [hcreatable.mpr hnone] at hcreate
      cases hcreate

theorem Tracks.goes (h : Tracks files past now sink)
    (hopen : ∀ path, sink.isOpen path = lastWentTo past path) (store : String) (document : Json)
    (hdistinct : files.Distinct (past.map (·.path) ++ [sink.target store])) :
    Goes files past now sink store document := by
  cases htarget : sink.isOpen (sink.target store) with
  | false => exact h.goes_of_not_last hdistinct htarget ((hopen _).symm.trans htarget) document
  | true =>
    cases hcurrent : sink.current with
    | none => exact absurd htarget (by simp [isOpen_eq_false hcurrent])
    | some file =>
      exact h.goes_of_last hdistinct hcurrent ((isOpen_of_some hcurrent _).symm.trans htarget)
        ((hopen _).symm.trans htarget) document

/-! ## Whole histories -/

variable {adds : List (String × Json)}

theorem tracks_nil (hcurrent : sink.current = none) : Tracks files [] files sink :=
  ⟨.refl files, by simp [hcurrent], by simp, fun _ _ ↦ rfl⟩

/-- The sink tracks its history, whose last document went to the open file. -/
theorem tracks_addAll (hcurrent : sink.current = none)
    (hdistinct : files.Distinct (adds.map fun (store, _) ↦ sink.target store)) :
    Tracks files (sink.history files adds) (sink.addAll files adds).1 (sink.addAll files adds).2.1 ∧
      (sink.addAll files adds).2.1.target = sink.target ∧
      ∀ path, (sink.addAll files adds).2.1.isOpen path =
        lastWentTo (sink.history files adds) path := by
  induction adds using List.reverseRecOn with
  | nil => exact ⟨tracks_nil hcurrent, rfl, isOpen_eq_false hcurrent⟩
  | append_singleton before add ih =>
    obtain ⟨store, document⟩ := add
    rw [List.map_append, List.map_singleton] at hdistinct
    obtain ⟨htracks, htarget, hopen⟩ := ih (hdistinct.of_subset (List.subset_append_left ..))
    have hgoes := htracks.goes hopen store document (by rwa [map_path_history, htarget])
    rw [addAll_append, history_append]
    refine ⟨?_, hgoes.target.trans htarget, fun path ↦ ?_⟩
    · rw [← htarget]
      exact hgoes.tracks
    · rw [hgoes.isOpen, lastWentTo_append, htarget]

/-- What a sink without an open file leaves when documents are added to it and it is closed. -/
structure LeavesLastRuns (sink : Sink) (files : FileSystem) (adds : List (String × Json)) :
    Prop where
  /-- A file to which a document went has the last run of its path, whatever it had before. -/
  created : ∀ added ∈ sink.history files adds, added.result.isOk →
    ∀ place, files.place? added.path = some place → (sink.left files adds).node? place =
      some (FileSystem.overwritten (files.node? place)
        (lines (lastRun (sink.history files adds) added.path)))
  /-- All else is as it was. -/
  unchanged : ∀ place, (∀ added ∈ sink.history files adds, added.result.isOk →
    files.place? added.path ≠ some place) → (sink.left files adds).node? place = files.node? place
  /-- Closing succeeds, and whether the sink is closed or given up makes no difference. -/
  closes : (sink.addAll files adds).2.1.close (sink.addAll files adds).1 =
    (sink.left files adds, sink, .ok ())
  /-- A document is taken if its target is open or can be created. -/
  accepted : ∀ before store document, before ++ [(store, document)] <+: adds →
    lastWentTo (sink.history files before) (sink.target store) = true ∨
      files.create? (sink.target store) ≠ none →
    (sink.addAll files (before ++ [(store, document)])).2.2 =
      (sink.addAll files before).2.2 ++ [.ok ()]
  /-- Otherwise it is refused: nothing is written but what was held back for the open file, and the
  sink goes on with no open file. -/
  refused : ∀ before store document, before ++ [(store, document)] <+: adds →
    lastWentTo (sink.history files before) (sink.target store) = false →
    files.create? (sink.target store) = none →
    sink.addAll files (before ++ [(store, document)]) =
      (sink.left files before, sink,
        (sink.addAll files before).2.2 ++ [failed (sink.target store)])

/-- **A sink leaves the last run of documents in every file to which a document went.** -/
theorem leavesLastRuns_of_distinct (hcurrent : sink.current = none)
    (hdistinct : files.Distinct (adds.map fun (store, _) ↦ sink.target store)) :
    sink.LeavesLastRuns files adds := by
  have hsink (last : Sink) (htarget : last.target = sink.target) :
      { last with current := none } = sink := by rw [← hcurrent, htarget]
  obtain ⟨htracks, htarget, -⟩ := tracks_addAll hcurrent hdistinct
  obtain ⟨closed, hclose, hclosed⟩ := htracks.exists_close (by rwa [map_path_history])
  have hleft : sink.left files adds = closed := by rw [left, drop, hclose]
  -- What an add does is told by the history before it.
  have hgoes (before : List (String × Json)) (store : String) (document : Json)
      (hbefore : before ++ [(store, document)] <+: adds) :
      (sink.addAll files before).2.1.target = sink.target ∧
        Goes files (sink.history files before) (sink.addAll files before).1
          (sink.addAll files before).2.1 store document := by
    have hdistinct := hdistinct.of_subset (hbefore.map _).subset
    rw [List.map_append, List.map_singleton] at hdistinct
    obtain ⟨htracks, htarget, hopen⟩ := tracks_addAll hcurrent
      (hdistinct.of_subset (List.subset_append_left ..))
    exact ⟨htarget, htracks.goes hopen store document (by rwa [map_path_history, htarget])⟩
  refine ⟨fun added hadded hok ↦ ?_, fun place hplaces ↦ ?_, ?_,
    fun before store document hbefore ↦ ?_,
    fun before store document hbefore hlast hcreate ↦ ?_⟩
  · rw [hleft]
    exact hclosed.created added hadded hok (isOpen_eq_false rfl _)
  · rw [hleft]
    exact hclosed.unchanged place hplaces
  · rw [hclose, hleft, hsink _ htarget]
  · obtain ⟨htarget, hgoes⟩ := hgoes before store document hbefore
    rw [← htarget, addAll_append]
    intro haccepted
    rw [hgoes.accepted haccepted]
  · obtain ⟨htarget, hgoes⟩ := hgoes before store document hbefore
    rw [← htarget] at hlast hcreate
    rw [addAll_append, hgoes.refused hlast hcreate, hsink _ htarget, htarget, left]

/-- Of two runs for one file the second stays, a run goes on over another spelling of its path, and
a target that is refused comes between two documents for one file. -/
theorem leavesLastRuns_of_two_runs :
    let files : FileSystem :=
      { nodes := [(["a"], .file (encodeText "old")), (["c"], .file (encodeText "kept"))] }
    let adds : List (String × Json) := [("a", .bool true), ("b", .bool true), ("none/x", .null),
      ("b", .bool false), ("b/", .null), ("a", .null)]
    let sink : Sink := { target := id }
    sink.current = none ∧ files.Distinct (adds.map fun (store, _) ↦ sink.target store) ∧
      (sink.left files adds).node? ["a"] = some (.file (encodeText "null\n")) ∧
      (sink.left files adds).node? ["b"] = some (.file (encodeText "false\nnull\n")) ∧
      sink.LeavesLastRuns files adds :=
  have hdistinct : FileSystem.Distinct
      { nodes := [(["a"], .file (encodeText "old")), (["c"], .file (encodeText "kept"))] }
      ["a", "b", "none/x", "b", "b/", "a"] := by decide +kernel
  ⟨rfl, hdistinct, by decide +kernel, by decide +kernel, leavesLastRuns_of_distinct rfl hdistinct⟩

end Sink

end DocumentSchema
