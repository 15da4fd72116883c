import DocumentSchema.Lines.Sink

/-!
# Writing to open files

An open file holds octets back, so what was written to it is to be found partly in the file system
and partly in the open file. `OpenFile.Holds` is both together: the octets that the file has once
what is held back is written. Opening starts from none, writing appends, flushing leaves the file
with what was held, and all of this happens at one place.

Writing never makes or removes a directory. Which places paths mean depends on directories alone, so
a path means the same place as long as files are only written (`FileSystem.SameTree`).
-/

namespace DocumentSchema

namespace FileSystem

variable {files after last : FileSystem} {path : String} {place : Place}

/-! ## Directories and devices -/

/-- The directories and devices of two file systems are the same. -/
structure SameTree (files after : FileSystem) : Prop where
  workingDirectory : after.workingDirectory = files.workingDirectory
  directory : ∀ place, after.node? place = some .directory ↔ files.node? place = some .directory
  device : ∀ place full,
    after.node? place = some (.device full) ↔ files.node? place = some (.device full)

theorem SameTree.refl (files : FileSystem) : files.SameTree files :=
  ⟨rfl, fun _ ↦ .rfl, fun _ _ ↦ .rfl⟩

theorem SameTree.trans (h : files.SameTree after) (hlast : after.SameTree last) :
    files.SameTree last where
  workingDirectory := hlast.workingDirectory.trans h.workingDirectory
  directory place := (hlast.directory place).trans (h.directory place)
  device place full := (hlast.device place full).trans (h.device place full)

theorem SameTree.walk_eq (h : files.SameTree after) (place : Place) (parts : List String) :
    after.walk place parts = files.walk place parts := by
  induction parts generalizing place with
  | nil => rfl
  | cons part rest ih =>
    have hdirectory : after.node? place ≠ some .directory ↔ files.node? place ≠ some .directory :=
      not_congr (h.directory place)
    simp only [walk, ih, hdirectory]

theorem SameTree.place?_eq (h : files.SameTree after) (path : String) :
    after.place? path = files.place? path := by
  rw [place?, place?, h.workingDirectory, h.walk_eq]

/-- Two file systems with the same directories and devices that differ at one place at most. -/
structure WrittenAt (place : Place) (files after : FileSystem) : Prop where
  sameTree : files.SameTree after
  elsewhere : ∀ other, other ≠ place → after.node? other = files.node? other

theorem WrittenAt.refl (place : Place) (files : FileSystem) : WrittenAt place files files :=
  ⟨.refl files, fun _ _ ↦ rfl⟩

theorem WrittenAt.trans (h : WrittenAt place files after) (hlast : WrittenAt place after last) :
    WrittenAt place files last where
  sameTree := h.sameTree.trans hlast.sameTree
  elsewhere other hother := (hlast.elsewhere other hother).trans (h.elsewhere other hother)

theorem writtenAt_set
    (h : files.node? place = none ∨ ∃ before, files.node? place = some (.file before))
    (contents : Octets) :
    WrittenAt place files (files.set place (.file contents)) ∧
      (files.set place (.file contents)).node? place = some (.file contents) := by
  have hdirectory : files.node? place ≠ some .directory := by
    rcases h with h | ⟨before, h⟩ <;> simp [h]
  have hdevice : ∀ full, files.node? place ≠ some (.device full) := by
    rcases h with h | ⟨before, h⟩ <;> simp [h]
  have hroot : place ≠ [] := by
    rintro rfl
    exact hdirectory (node?_root files)
  have hnode (other : Place) := node?_set files hroot other (.file contents)
  refine ⟨⟨⟨rfl, fun other ↦ ?_, fun other full ↦ ?_⟩, fun other hother ↦ ?_⟩, ?_⟩
  · rw [hnode]
    split
    · rename_i heq
      simp [heq, hdirectory]
    · rfl
  · rw [hnode]
    split
    · rename_i heq
      simp [heq, hdevice]
    · rfl
  · rw [hnode, if_neg hother]
  · rw [hnode, if_pos rfl]

/-! ## Creating -/

/-- What stands at a place where octets were written from the beginning on. A device stays as it is.
-/
def overwritten (node : Option FileNode) (octets : Octets) : FileNode :=
  match node with
  | some (.device full) => .device full
  | _ => .file octets

/-- Creating empties the file that a path means, and changes nothing else. -/
theorem of_create? (h : files.create? path = some (after, place)) :
    files.place? path = some place ∧ WrittenAt place files after ∧
      after.node? place = some (overwritten (files.node? place) []) := by
  obtain ⟨found, hplace, hcreate⟩ := Option.bind_eq_some_iff.mp h
  rw [hplace]
  split at hcreate
  · cases hcreate
  · rename_i full hnode
    obtain ⟨rfl, rfl⟩ := Prod.mk.inj (Option.some.inj hcreate)
    exact ⟨rfl, .refl _ _, by rw [hnode]; rfl⟩
  · rename_i contents hnode
    obtain ⟨rfl, rfl⟩ := Prod.mk.inj (Option.some.inj hcreate)
    obtain ⟨hwritten, hafter⟩ := writtenAt_set (.inr ⟨contents, hnode⟩) []
    exact ⟨rfl, hwritten, by rw [hafter, hnode]; rfl⟩
  · rename_i hnode
    obtain ⟨rfl, rfl⟩ := Prod.mk.inj (Option.some.inj hcreate)
    obtain ⟨hwritten, hafter⟩ := writtenAt_set (.inl hnode) []
    exact ⟨rfl, hwritten, by rw [hafter, hnode]; rfl⟩

/-- Whether a path can be created is a matter of directories alone. -/
theorem SameTree.create?_eq_none_iff (h : files.SameTree after) :
    after.create? path = none ↔ files.create? path = none := by
  have hcreate : ∀ files : FileSystem, files.create? path = none ↔
      ∀ place, files.place? path = some place → files.node? place = some .directory := by
    intro files
    rw [create?]
    cases files.place? path with
    | none => simp
    | some place =>
      cases hnode : files.node? place with
      | none => simp [hnode]
      | some node => cases node <;> simp [hnode]
  simp only [hcreate, h.place?_eq, h.directory]

end FileSystem

/-! ## Open files -/

namespace OpenFile

variable {file next : OpenFile} {files after : FileSystem} {octets more : Octets}

/-- With what is held back, the file has these octets. A device has none, and is open for any. -/
def Holds (file : OpenFile) (files : FileSystem) (octets : Octets) : Prop :=
  (∃ written, files.node? file.place = some (.file written) ∧ file.offset = written.length ∧
    written ++ file.pending = octets) ∨
  ∃ full, files.node? file.place = some (.device full)

theorem holds_of_create? {path : String} {place : Place}
    (h : files.create? path = some (after, place)) :
    ({ path, place } : OpenFile).Holds after [] := by
  obtain ⟨-, -, hnode⟩ := FileSystem.of_create? h
  cases hbefore : files.node? place with
  | none => rw [hbefore] at hnode; exact .inl ⟨[], hnode, rfl, rfl⟩
  | some node =>
    rw [hbefore] at hnode
    cases node with
    | device full => exact .inr ⟨full, hnode⟩
    | file _ | directory => exact .inl ⟨[], hnode, rfl, rfl⟩

/-- What happens at other places is nothing to an open file. -/
theorem Holds.of_node?_eq (h : file.Holds files octets)
    (hnode : after.node? file.place = files.node? file.place) : file.Holds after octets := by
  rwa [Holds, hnode]

/-- **Flushing leaves the file with what was held.** -/
theorem Holds.flush (h : file.Holds files octets)
    (hflush : file.flush? files = some (after, next)) :
    next.Holds after octets ∧ next.path = file.path ∧ next.place = file.place ∧
      FileSystem.WrittenAt file.place files after ∧
      after.node? file.place = some (FileSystem.overwritten (files.node? file.place) octets) := by
  obtain ⟨written, hwrite, hnext⟩ := Option.bind_eq_some_iff.mp hflush
  obtain ⟨rfl, rfl⟩ := Prod.mk.inj (Option.some.inj hnext)
  rcases h with ⟨contents, hnode, hoffset, rfl⟩ | ⟨full, hnode⟩
  · simp only [FileSystem.write?, hnode, hoffset, FileSystem.overwrite_length, Option.some.injEq]
      at hwrite
    obtain rfl := hwrite
    obtain ⟨hwritten, hafter⟩ := FileSystem.writtenAt_set (.inr ⟨contents, hnode⟩)
      (contents ++ file.pending)
    refine ⟨.inl ⟨_, hafter, ?_, List.append_nil _⟩, rfl, rfl, hwritten, ?_⟩
    · rw [hoffset, List.length_append]
    · rw [hafter, hnode]
      rfl
  · simp only [FileSystem.write?, hnode] at hwrite
    split at hwrite
    · cases hwrite
    · obtain rfl := Option.some.inj hwrite
      exact ⟨.inr ⟨full, hnode⟩, rfl, rfl, .refl _ _, by rw [hnode]; rfl⟩

/-- **Writing appends to what is held.** -/
theorem Holds.write (h : file.Holds files octets)
    (hwrite : file.write? files more = some (after, next)) :
    next.Holds after (octets ++ more) ∧ next.path = file.path ∧ next.place = file.place ∧
      FileSystem.WrittenAt file.place files after := by
  have hpending : ({ file with pending := file.pending ++ more } : OpenFile).Holds files
      (octets ++ more) := by
    rcases h with ⟨written, hnode, hoffset, rfl⟩ | hdevice
    · exact .inl ⟨written, hnode, hoffset, (List.append_assoc ..).symm⟩
    · exact .inr hdevice
  rw [write?] at hwrite
  dsimp only at hwrite
  split at hwrite
  · obtain ⟨rfl, rfl⟩ := Prod.mk.inj (Option.some.inj hwrite)
    exact ⟨hpending, rfl, rfl, .refl _ _⟩
  · obtain ⟨hholds, hpath, hplace, hwritten, -⟩ := hpending.flush hwrite
    exact ⟨hholds, hpath, hplace, hwritten⟩

theorem Holds.exists_flush (h : file.Holds files octets)
    (hfull : files.node? file.place ≠ some (.device true)) :
    ∃ after next, file.flush? files = some (after, next) := by
  rcases h with ⟨written, hnode, -, -⟩ | ⟨full, hnode⟩
  · exact ⟨_, _, by simp only [flush?, FileSystem.write?, hnode]; rfl⟩
  · cases full with
    | true => exact absurd hnode hfull
    | false => exact ⟨_, _, by simp only [flush?, FileSystem.write?, hnode]; rfl⟩

theorem Holds.exists_write (h : file.Holds files octets)
    (hfull : files.node? file.place ≠ some (.device true)) (more : Octets) :
    ∃ after next, file.write? files more = some (after, next) := by
  rw [write?]
  dsimp only
  split
  · exact ⟨_, _, rfl⟩
  · have hpending : ∃ octets, ({ file with pending := file.pending ++ more } : OpenFile).Holds files
        octets := by
      rcases h with ⟨written, hnode, hoffset, -⟩ | hdevice
      · exact ⟨_, .inl ⟨written, hnode, hoffset, rfl⟩⟩
      · exact ⟨[], .inr hdevice⟩
    exact hpending.choose_spec.exists_flush hfull

end OpenFile

end DocumentSchema
