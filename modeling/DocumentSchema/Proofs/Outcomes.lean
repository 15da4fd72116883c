/-!
# Outcomes

An outcome is a failure, or nothing, or one finding. Checks are made in order and the first failure
ends them all, so what a list of outcomes comes to is its first failure, or else its findings in
order. `verdict` says this of the flat list; a computation that nests its loops comes to the same,
whatever the nesting.

How a computation can fail is what its steps can fail with, so it is said of each step once and put
together by `FailsOnly.bind`.
-/

namespace DocumentSchema

variable {ε α β : Type}

/-! ## Steps that succeed -/

theorem bind_eq_ok_iff {first : Except ε α} {next : α → Except ε β} {b : β} :
    first >>= next = .ok b ↔ ∃ a, first = .ok a ∧ next a = .ok b := by
  cases first <;> simp [bind, Except.bind]

theorem map_eq_ok_iff {first : Except ε α} {function : α → β} {b : β} :
    first.map function = .ok b ↔ ∃ a, first = .ok a ∧ function a = b := by
  cases first <;> simp [Except.map]

theorem mapError_eq_ok_iff {ε' : Type} {first : Except ε α} {function : ε → ε'} {a : α} :
    first.mapError function = .ok a ↔ first = .ok a := by
  cases first with
  | error error => exact ⟨(nomatch ·), (nomatch ·)⟩
  | ok b => exact ⟨fun h ↦ congrArg _ (Except.ok.inj h), fun h ↦ congrArg _ (Except.ok.inj h)⟩

theorem pure_eq_ok_iff {a b : α} : (pure a : Except ε α) = .ok b ↔ a = b := by
  simp [pure, Except.pure]

/-- Where a step undoes a function, so do the steps over a list. -/
theorem mapM_eq_ok_iff {step : α → Except ε β} {undone : β → α}
    (hstep : ∀ a b, step a = .ok b ↔ a = undone b) {list : List α} {results : List β} :
    list.mapM step = .ok results ↔ list = results.map undone := by
  induction list generalizing results with
  | nil =>
    rw [List.mapM_nil, pure_eq_ok_iff]
    cases results <;> simp
  | cons a rest ih =>
    simp only [List.mapM_cons, bind_eq_ok_iff, pure_eq_ok_iff, hstep, ih]
    constructor
    · rintro ⟨b, rfl, others, rfl, rfl⟩
      rfl
    · intro h
      obtain ⟨b, others, rfl, rfl, rfl⟩ := List.map_eq_cons_iff.mp h.symm
      exact ⟨b, rfl, others, rfl, rfl⟩

/-! ## Steps that fail -/

/-- A failure, if there is one, is as described. -/
def FailsOnly (described : ε → Prop) (outcome : Except ε α) : Prop :=
  ∀ error, outcome = .error error → described error

section FailsOnly

variable {described : ε → Prop}

theorem failsOnly_ok (a : α) : FailsOnly described (.ok a) := fun _ h ↦ nomatch h

theorem failsOnly_pure (a : α) : FailsOnly described (pure a) := failsOnly_ok a

theorem failsOnly_error {error : ε} (h : described error) :
    FailsOnly described (.error error : Except ε α) := by
  intro other hother
  exact Except.error.inj hother ▸ h

theorem FailsOnly.bind {first : Except ε α} {next : α → Except ε β}
    (h : FailsOnly described first) (hnext : ∀ a, FailsOnly described (next a)) :
    FailsOnly described (first >>= next) := by
  rcases first with error | a
  · exact failsOnly_error (h error rfl)
  · exact hnext a

theorem FailsOnly.map {first : Except ε α} (h : FailsOnly described first) (function : α → β) :
    FailsOnly described (function <$> first) := by
  rcases first with error | a
  · exact failsOnly_error (h error rfl)
  · exact failsOnly_ok (function a)

theorem failsOnly_mapM {step : α → Except ε β} (h : ∀ a, FailsOnly described (step a))
    (list : List α) : FailsOnly described (list.mapM step) := by
  induction list with
  | nil => exact failsOnly_ok []
  | cons a rest ih =>
    rw [List.mapM_cons]
    exact (h a).bind fun b ↦ ih.bind fun others ↦ failsOnly_pure (b :: others)

end FailsOnly

/-! ## Verdicts -/

/-- The first failure, or the findings in order. -/
def verdict : List (Except ε (Option α)) → Except ε (List α)
  | [] => .ok []
  | .error error :: _ => .error error
  | .ok finding :: rest => (verdict rest).map (finding.toList ++ ·)

@[simp] theorem verdict_nil : verdict ([] : List (Except ε (Option α))) = .ok [] := rfl

@[simp] theorem verdict_error_cons (error : ε) (rest : List (Except ε (Option α))) :
    verdict (.error error :: rest) = .error error := rfl

@[simp] theorem verdict_ok_cons (finding : Option α) (rest : List (Except ε (Option α))) :
    verdict (.ok finding :: rest) = (verdict rest).map (finding.toList ++ ·) := rfl

theorem verdict_append (first second : List (Except ε (Option α))) :
    verdict (first ++ second) = (do return (← verdict first) ++ (← verdict second)) := by
  induction first with
  | nil =>
    rw [List.nil_append, verdict_nil]
    cases verdict second with
    | error error => rfl
    | ok findings => rfl
  | cons outcome rest ih =>
    rw [List.cons_append]
    cases outcome with
    | error error => rfl
    | ok finding =>
      rw [verdict_ok_cons, verdict_ok_cons, ih]
      -- A failure of the rest hides the second part, and only two successes are joined.
      cases verdict rest with
      | error error => rfl
      | ok findings =>
        cases verdict second with
        | error error => rfl
        | ok others => exact congrArg Except.ok (List.append_assoc ..).symm

/-- Steps made one after the other, each with one outcome. -/
theorem mapM_eq_verdict (step : α → Except ε (Option β)) (list : List α) :
    (do return (← list.mapM step).filterMap id) = verdict (list.map step) := by
  induction list with
  | nil => rfl
  | cons a rest ih =>
    rw [List.map_cons, List.mapM_cons]
    cases hstep : step a with
    | error error => rfl
    | ok finding =>
      rw [verdict_ok_cons, ← ih]
      cases rest.mapM step with
      | error error => rfl
      | ok findings => cases finding <;> rfl

/-- Steps made one after the other, each with a list of outcomes. -/
theorem mapM_verdict_eq_verdict (outcomes : α → List (Except ε (Option β))) (list : List α) :
    (do return (← list.mapM fun a ↦ verdict (outcomes a)).flatten)
      = verdict (list.flatMap outcomes) := by
  induction list with
  | nil => rfl
  | cons a rest ih =>
    rw [List.flatMap_cons, verdict_append, ← ih, List.mapM_cons]
    cases verdict (outcomes a) with
    | error error => rfl
    | ok findings =>
      cases rest.mapM fun a ↦ verdict (outcomes a) with
      | error error => rfl
      | ok others => rfl

theorem mem_of_verdict_eq_ok {outcomes : List (Except ε (Option α))} {findings : List α}
    (h : verdict outcomes = .ok findings) {finding : α} (hmem : .ok (some finding) ∈ outcomes) :
    finding ∈ findings := by
  induction outcomes generalizing findings with
  | nil => simp at hmem
  | cons outcome rest ih =>
    cases outcome with
    | error error => cases h
    | ok found =>
      rw [verdict_ok_cons] at h
      cases hrest : verdict rest with
      | error error => rw [hrest] at h; cases h
      | ok others =>
        rw [hrest] at h
        obtain rfl := Except.ok.inj h
        rcases List.mem_cons.mp hmem with heq | hmem
        · rw [← Except.ok.inj heq]
          simp
        · exact List.mem_append_right _ (ih hrest hmem)

/-- The finding of an outcome, if it is no failure and finds something. -/
def found : Except ε (Option α) → Option α
  | .ok finding => finding
  | .error _ => none

theorem verdict_eq_ok {outcomes : List (Except ε (Option α))}
    (h : ∀ outcome ∈ outcomes, ∃ finding, outcome = .ok finding) :
    verdict outcomes = .ok (outcomes.filterMap found) := by
  induction outcomes with
  | nil => rfl
  | cons outcome rest ih =>
    obtain ⟨finding, rfl⟩ := h outcome List.mem_cons_self
    rw [verdict_ok_cons, ih fun other hother ↦ h other (List.mem_cons_of_mem _ hother)]
    cases finding <;> rfl

end DocumentSchema
