import DocumentSchema.Proofs.Lines.LastRun
import Mathlib.Data.List.Basic

/-!
# Files in one directory

The names of stores come from outside: they can be empty, absolute, end with slashes or with dots,
or lead up. What a sink takes of such a name is its last component, and only if that is an ordinary
name. So the path it makes is that of the directory with one name more, and the file it opens is
directly in the directory, whatever the store is called.

## Components

How a path is written matters only at its ends. A name that is joined to a directory is one
component more (`components_join`); and a path has a file name if it ends in an ordinary name, with
nothing after it but slashes and single dots (`fileName?_eq_some_iff`).
-/

namespace DocumentSchema

namespace FilePath

variable {path directory name : String}

/-- The text is the ordinary name of a file: not empty, neither of the two dots, with no slash. -/
structure Ordinary (text : String) : Prop where
  nonempty : text ≠ ""
  notHere : text ≠ "."
  notUp : text ≠ ".."
  noSlash : '/' ∉ text.toList

/-- The last component of the path, but for slashes and single dots at the end. -/
def EndsIn (path last : String) : Prop :=
  ∃ before after : List String, (∀ part ∈ after, part = "" ∨ part = ".") ∧
    path = "/".intercalate (before ++ last :: after)

theorem Ordinary.component?_eq (h : Ordinary name) : component? name = some (.name name) := by
  rw [component?, if_neg (not_or.mpr ⟨h.nonempty, h.notHere⟩), if_neg h.notUp]

theorem Ordinary.parts_eq (h : Ordinary name) : parts name = [name] := parts_of_notMem h.noSlash

/-! ## The end of a path -/

theorem endsIn_iff_parts (h : Ordinary name) : EndsIn path name ↔
    ∃ before after, (∀ part ∈ after, component? part = none) ∧
      parts path = before ++ name :: after := by
  constructor
  · rintro ⟨before, after, hafter, rfl⟩
    have hparts : after.flatMap parts = after := by
      have halone : ∀ part ∈ after, parts part = [part] := by
        intro part hpart
        rcases hafter part hpart with rfl | rfl <;> exact parts_of_notMem (by decide)
      rw [List.flatMap_congr halone, List.flatMap_singleton']
    refine ⟨before.flatMap parts, after, fun part hpart ↦ ?_, ?_⟩
    · exact component?_eq_none_iff.mpr (hafter part hpart)
    · rw [parts_intercalate (by simp), List.flatMap_append, List.flatMap_cons, h.parts_eq, hparts]
      rfl
  · rintro ⟨before, after, hafter, hparts⟩
    refine ⟨before, after, fun part hpart ↦ component?_eq_none_iff.mp (hafter part hpart), ?_⟩
    rw [← hparts, intercalate_parts]

private theorem getLast?_cons_eq_name_iff {first : Component} (h : first ≠ .name name)
    (rest : List Component) :
    (first :: rest).getLast? = some (.name name) ↔ rest.getLast? = some (.name name) := by
  rcases rest with _ | ⟨second, more⟩
  · simpa using h
  · rw [List.getLast?_cons_cons]

theorem getLast?_components_eq_name_iff : (components path).getLast? = some (.name name) ↔
    ((parts path).filterMap component?).getLast? = some (.name name) := by
  unfold components
  split
  · exact getLast?_cons_eq_name_iff Component.noConfusion _
  · split
    · exact getLast?_cons_eq_name_iff Component.noConfusion _
    · rfl

theorem fileName?_eq_some_iff_getLast? :
    fileName? path = some name ↔ (components path).getLast? = some (.name name) := by
  rw [fileName?]
  split
  · rename_i hlast
    simp [hlast]
  · rename_i hother
    simpa using hother name

/-- **The file name of a path is the ordinary name that it ends in.** -/
theorem fileName?_eq_some_iff : fileName? path = some name ↔ Ordinary name ∧ EndsIn path name := by
  rw [fileName?_eq_some_iff_getLast?, getLast?_components_eq_name_iff, List.getLast?_filterMap,
    List.findSome?_eq_some_iff]
  constructor
  · rintro ⟨after, part, before, hparts, hpart, hafter⟩
    obtain ⟨rfl, hempty, hhere, hup⟩ := name_of_component? hpart
    rw [List.reverse_eq_append_iff, List.reverse_cons, List.append_assoc] at hparts
    have hslash : '/' ∉ name.toList := slash_notMem_of_mem_parts (by rw [hparts]; simp)
    have hname : Ordinary name := ⟨hempty, hhere, hup, hslash⟩
    refine ⟨hname, (endsIn_iff_parts hname).mpr ⟨before.reverse, after.reverse, ?_, hparts⟩⟩
    intro part hpart
    exact hafter part (List.mem_reverse.mp hpart)
  · rintro ⟨hname, hends⟩
    obtain ⟨before, after, hafter, hparts⟩ := (endsIn_iff_parts hname).mp hends
    refine ⟨after.reverse, name, before.reverse, ?_, hname.component?_eq, ?_⟩
    · rw [hparts, List.reverse_append, List.reverse_cons, List.append_assoc]
      rfl
    · intro part hpart
      exact hafter part (List.mem_reverse.mp hpart)

/-! ## Names in a directory -/

theorem exists_parts_join (hdirectory : directory ≠ "") (h : Ordinary name) :
    ∃ before, before ≠ [] ∧ parts (join directory name) = before ++ [name] ∧
      (parts directory = before ∨ parts directory = before ++ [""]) := by
  by_cases hslash : directory.toList.getLast? = some '/'
  · obtain ⟨front, hfront⟩ := List.getLast?_eq_some_iff.mp hslash
    have hends : directory = String.ofList front ++ "/" ++ "" := by
      rw [← String.toList_inj, hfront]
      simp
    refine ⟨parts (String.ofList front), parts_ne_nil _, ?_, Or.inr ?_⟩
    · rw [join, if_pos (Or.inr hslash), hends, String.append_empty, parts_append_slash_append,
        h.parts_eq]
    · rw [hends, parts_append_slash_append]
      rfl
  · refine ⟨parts directory, parts_ne_nil _, ?_, Or.inl rfl⟩
    rw [join, if_neg (not_or.mpr ⟨hdirectory, hslash⟩), parts_append_slash_append, h.parts_eq]

theorem isAbsolute_join (hdirectory : directory ≠ "") (name : String) :
    isAbsolute (join directory name) = isAbsolute directory := by
  obtain ⟨rest, hrest⟩ : ∃ rest, join directory name = directory ++ rest := by
    unfold join
    split
    · exact ⟨name, rfl⟩
    · exact ⟨"/" ++ name, String.append_assoc⟩
  obtain ⟨first, more, hfirst⟩ := List.exists_cons_of_ne_nil
    (mt String.toList_eq_nil_iff.mp hdirectory)
  simp [isAbsolute, hrest, hfirst]

/-- **A name that is joined to a directory is one component more.** -/
theorem components_join (directory : String) (h : Ordinary name) :
    components (join directory name) = components directory ++ [.name name] := by
  by_cases hdirectory : directory = ""
  · subst hdirectory
    have habsolute : isAbsolute name = false := by
      rw [isAbsolute, decide_eq_false_iff_not]
      exact fun hhead ↦ h.noSlash (List.mem_of_head? hhead)
    have hnothing : components "" = [] := by decide
    rw [join, if_pos (Or.inl rfl), String.empty_append, hnothing, components, habsolute, h.parts_eq,
      List.filterMap_cons_some h.component?_eq]
    simp [h.notHere]
  · obtain ⟨before, hbefore, hjoin, hparts⟩ := exists_parts_join hdirectory h
    have hhead : (parts (join directory name)).head? = (parts directory).head? := by
      rw [hjoin, List.head?_append_of_ne_nil _ hbefore]
      rcases hparts with hparts | hparts
      · rw [hparts]
      · rw [hparts, List.head?_append_of_ne_nil _ hbefore]
    have hrest : (parts (join directory name)).filterMap component?
        = (parts directory).filterMap component? ++ [.name name] := by
      have hname : [name].filterMap component? = [.name name] :=
        List.filterMap_cons_some h.component?_eq
      rw [hjoin, List.filterMap_append, hname]
      rcases hparts with hparts | hparts
      · rw [hparts]
      · rw [hparts, List.filterMap_append]
        simp [component?]
    rw [components, components, isAbsolute_join hdirectory, hhead, hrest]
    split
    · rfl
    · split <;> rfl

end FilePath

namespace FileSystem

theorem follow_append_name (place : Place) (components : List FilePath.Component) (name : String) :
    follow place (components ++ [.name name]) = follow place components ++ [name] := by
  induction components generalizing place with
  | nil => rfl
  | cons component rest ih => rcases component with _ | _ | _ | _ <;> exact ih _

/-- **What a name means in a directory is directly in it**, if the two paths mean anything. -/
theorem place?_join {files : FileSystem} {directory name : String} {above place : Place}
    (hname : FilePath.Ordinary name) (habove : files.place? directory = some above)
    (hplace : files.place? (FilePath.join directory name) = some place) :
    place = above ++ [name] := by
  rw [eq_follow_of_place? hplace, eq_follow_of_place? habove, FilePath.components_join _ hname,
    follow_append_name]
  simp

end FileSystem

namespace Sink

theorem ordinary_defaultName : FilePath.Ordinary defaultName :=
  ⟨by decide, by decide, by decide, by decide⟩

/-- The name that is chosen for a store is the one that the store ends in, if it ends in one. -/
theorem exists_ordinary_intoDirectory (directory store : String) : ∃ name, FilePath.Ordinary name ∧
    intoDirectory directory store = FilePath.join directory name ∧
    (∀ last, FilePath.Ordinary last → FilePath.EndsIn store last → name = last) ∧
    ((∀ last, FilePath.Ordinary last → ¬FilePath.EndsIn store last) → name = defaultName) := by
  rcases hfile : FilePath.fileName? store with _ | name
  · have hnone : ∀ last, FilePath.Ordinary last → ¬FilePath.EndsIn store last := by
      intro last hlast hends
      rw [FilePath.fileName?_eq_some_iff.mpr ⟨hlast, hends⟩] at hfile
      cases hfile
    refine ⟨defaultName, ordinary_defaultName, ?_, ?_, fun _ ↦ rfl⟩
    · rw [intoDirectory, hfile, Option.getD_none]
    · intro last hlast hends
      exact absurd hends (hnone last hlast)
  · obtain ⟨hname, hends⟩ := FilePath.fileName?_eq_some_iff.mp hfile
    refine ⟨name, hname, ?_, ?_, ?_⟩
    · rw [intoDirectory, hfile, Option.getD_some]
    · intro last hlast hother
      have hlastFile := FilePath.fileName?_eq_some_iff.mpr ⟨hlast, hother⟩
      rw [hfile] at hlastFile
      exact Option.some.inj hlastFile
    · intro hnone
      exact absurd hends (hnone name hname)

/-- **No store leads out of the directory.** The path that is chosen for a store is that of the
directory with one component more, which is an ordinary name: the one that the store ends in, or
the default if it ends in none. What that path means is directly in the directory. -/
theorem intoDirectory_stays (directory store : String) : ∃ name, FilePath.Ordinary name ∧
    intoDirectory directory store = FilePath.join directory name ∧
    FilePath.components (intoDirectory directory store)
      = FilePath.components directory ++ [.name name] ∧
    (∀ last, FilePath.Ordinary last → FilePath.EndsIn store last → name = last) ∧
    ((∀ last, FilePath.Ordinary last → ¬FilePath.EndsIn store last) → name = defaultName) ∧
    ∀ (files : FileSystem) (above place : Place), files.place? directory = some above →
      files.place? (intoDirectory directory store) = some place → place = above ++ [name] := by
  obtain ⟨name, hname, hpath, hlast, hnone⟩ := exists_ordinary_intoDirectory directory store
  refine ⟨name, hname, hpath, ?_, hlast, hnone, ?_⟩
  · rw [hpath]
    exact FilePath.components_join directory hname
  · intro files above place habove hplace
    rw [hpath] at hplace
    exact FileSystem.place?_join hname habove hplace

/-- A store that leads up and ends in slashes and a dot, and one that ends in two dots. -/
theorem intoDirectory_stays_dots :
    let files : FileSystem := { nodes := [(["out"], .directory)] }
    (FilePath.Ordinary "b" ∧ FilePath.EndsIn "/../b//./" "b" ∧
      intoDirectory "out/" "/../b//./" = "out/b" ∧
      FilePath.components "out/b" = FilePath.components "out/" ++ [.name "b"] ∧
      files.place? "out/" = some ["out"] ∧ files.place? "out/b" = some (["out"] ++ ["b"])) ∧
    (∀ last, FilePath.Ordinary last → ¬FilePath.EndsIn "b/.." last) ∧
      intoDirectory "out/" "b/.." = "out/documents.jsonl" := by
  intro files
  have hordinary : FilePath.Ordinary "b" := ⟨by decide, by decide, by decide, by decide⟩
  have hends : FilePath.EndsIn "/../b//./" "b" := ⟨["", ".."], ["", ".", ""], by decide, by decide⟩
  have habove : files.place? "out/" = some ["out"] := by decide
  have hnone : ∀ last, FilePath.Ordinary last → ¬FilePath.EndsIn "b/.." last := by
    intro last hlast hlastEnds
    have hfile := FilePath.fileName?_eq_some_iff.mpr ⟨hlast, hlastEnds⟩
    cases (show FilePath.fileName? "b/.." = none by decide).symm.trans hfile
  obtain ⟨name, -, hpath, hcomponents, hlast, -, hplaces⟩ :=
    intoDirectory_stays "out/" "/../b//./"
  obtain rfl := hlast "b" hordinary hends
  obtain ⟨place, hplace⟩ : ∃ place, files.place? "out/b" = some place := ⟨_, rfl⟩
  obtain rfl := hplaces files _ _ habove hplace
  obtain ⟨other, -, hotherPath, -, -, hdefault, -⟩ := intoDirectory_stays "out/" "b/.."
  obtain rfl := hdefault hnone
  exact ⟨⟨hordinary, hends, hpath, hcomponents, habove, hplace⟩, hnone, hotherPath⟩

end Sink

end DocumentSchema
