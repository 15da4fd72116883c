/-!
# Pieces

A list cut at every occurrence of a separator. There is one more piece than there are separators, so
a list always has a last piece, which may be empty; joining the pieces gives the list back. Field
paths are cut at dots, file paths at slashes, and stores at line feeds.
-/

namespace DocumentSchema

variable {α : Type} [DecidableEq α]

/-- The parts of a list between the separators. -/
def pieces (separator : α) : List α → List (List α)
  | [] => [[]]
  | x :: rest =>
    if x = separator then [] :: pieces separator rest
    else match pieces separator rest with
      | [] => [[x]]
      | piece :: more => (x :: piece) :: more

@[simp] theorem pieces_nil (separator : α) : pieces separator [] = [[]] := rfl

theorem pieces_ne_nil (separator : α) (list : List α) : pieces separator list ≠ [] := by
  cases list with
  | nil => simp
  | cons x rest =>
    unfold pieces
    split
    · simp
    · split <;> simp

@[simp] theorem pieces_separator_cons (separator : α) (rest : List α) :
    pieces separator (separator :: rest) = [] :: pieces separator rest := by
  simp [pieces]

theorem pieces_cons_of_ne {separator x : α} (h : x ≠ separator) (rest : List α) :
    ∃ piece more, pieces separator rest = piece :: more ∧
      pieces separator (x :: rest) = (x :: piece) :: more := by
  obtain ⟨piece, more, hrest⟩ := List.exists_cons_of_ne_nil (pieces_ne_nil separator rest)
  exact ⟨piece, more, hrest, by rw [pieces, if_neg h, hrest]⟩

/-- A list without the separator is its only piece. -/
theorem pieces_of_notMem {separator : α} {list : List α} (h : separator ∉ list) :
    pieces separator list = [list] := by
  induction list with
  | nil => rfl
  | cons x rest ih =>
    rw [List.mem_cons, not_or] at h
    rw [pieces, if_neg (Ne.symm h.1), ih h.2]

/-- The first piece ends at the first separator. -/
theorem pieces_append_separator {separator : α} {list : List α} (h : separator ∉ list)
    (rest : List α) :
    pieces separator (list ++ separator :: rest) = list :: pieces separator rest := by
  induction list with
  | nil => simp
  | cons x more ih =>
    rw [List.mem_cons, not_or] at h
    rw [List.cons_append, pieces, if_neg (Ne.symm h.1), ih h.2]

/-- A separator ends a piece, whatever stands before it. -/
theorem pieces_append_separator_append (separator : α) (list rest : List α) :
    pieces separator (list ++ separator :: rest)
      = pieces separator list ++ pieces separator rest := by
  induction list with
  | nil => simp
  | cons x more ih =>
    rw [List.cons_append]
    by_cases hx : x = separator
    · subst hx
      rw [pieces_separator_cons, pieces_separator_cons, ih, List.cons_append]
    · obtain ⟨piece, others, hmore, hcons⟩ := pieces_cons_of_ne hx more
      rw [hmore, List.cons_append] at ih
      rw [pieces, if_neg hx, ih, hcons, List.cons_append]

/-- What holds no separator goes to the end of the last piece. -/
theorem exists_pieces_append {separator : α} {rest : List α} (h : separator ∉ rest)
    (list : List α) :
    ∃ before last, pieces separator list = before ++ [last] ∧
      pieces separator (list ++ rest) = before ++ [last ++ rest] := by
  induction list with
  | nil => exact ⟨[], [], rfl, by rw [List.nil_append, pieces_of_notMem h]; rfl⟩
  | cons x more ih =>
    obtain ⟨before, last, hmore, happend⟩ := ih
    by_cases hx : x = separator
    · subst hx
      refine ⟨[] :: before, last, ?_, ?_⟩
      · rw [pieces_separator_cons, hmore, List.cons_append]
      · rw [List.cons_append, pieces_separator_cons, happend, List.cons_append]
    · rw [List.cons_append, pieces, if_neg hx, hmore, pieces, if_neg hx, happend]
      cases before with
      | nil => exact ⟨[], x :: last, rfl, rfl⟩
      | cons piece before => exact ⟨(x :: piece) :: before, last, rfl, rfl⟩

/-- No piece holds the separator. -/
theorem separator_notMem_of_mem_pieces {separator : α} {list piece : List α}
    (h : piece ∈ pieces separator list) : separator ∉ piece := by
  induction list generalizing piece with
  | nil => simp_all
  | cons x rest ih =>
    by_cases hx : x = separator
    · subst hx
      rw [pieces_separator_cons, List.mem_cons] at h
      rcases h with rfl | h
      · simp
      · exact ih h
    · obtain ⟨first, more, hrest, hlist⟩ := pieces_cons_of_ne hx rest
      rw [hlist, List.mem_cons] at h
      rcases h with rfl | h
      · rw [List.mem_cons, not_or]
        exact ⟨Ne.symm hx, ih (by simp [hrest])⟩
      · exact ih (by simp [hrest, h])

/-- Joining the pieces gives the list back. -/
theorem intercalate_pieces (separator : α) (list : List α) :
    [separator].intercalate (pieces separator list) = list := by
  induction list with
  | nil => simp
  | cons x rest ih =>
    by_cases hx : x = separator
    · subst hx
      obtain ⟨piece, more, hrest⟩ := List.exists_cons_of_ne_nil (pieces_ne_nil x rest)
      rw [pieces_separator_cons, hrest, List.intercalate_cons_cons, ← hrest, ih]
      simp
    · obtain ⟨first, more, hrest, hlist⟩ := pieces_cons_of_ne hx rest
      rw [hrest] at ih
      rw [hlist]
      cases more with
      | nil => simpa using ih
      | cons second more =>
        rw [List.intercalate_cons_cons] at ih ⊢
        simp only [List.cons_append, ih]

/-- What was joined is cut where it was joined, and where its parts are cut. -/
theorem pieces_intercalate {separator : α} {lists : List (List α)} (h : lists ≠ []) :
    pieces separator ([separator].intercalate lists) = lists.flatMap (pieces separator) := by
  induction lists with
  | nil => exact absurd rfl h
  | cons first rest ih =>
    rcases rest with _ | ⟨second, more⟩
    · simp
    · rw [List.intercalate_cons_cons, List.append_assoc, List.singleton_append,
        pieces_append_separator_append, ih (List.cons_ne_nil second more), ← List.flatMap_cons]

end DocumentSchema
