import DocumentSchema.Declaration
import DocumentSchema.Proofs.Path.Template

/-!
# Walks and known paths

A declaration walks from a path up to the root, and every path on the way is met by a demand that
the path below it makes necessary. `Ascent` says this of the list of demands, so that nothing about
fuel or about the characters of paths is left to later arguments.

## A walk that stops

A contradiction ends a walk in the middle and leaves what was met before. What lies above the last
path that was met is then known all the same, because a path that contradicts a demand was known
before, and with it everything above it. So the known paths are closed upwards in every schema that
declarations lead to, whether they succeed or not, while the rules that the known paths need above
them are there only if every declaration succeeds. Both follow from one induction over an ascent:
`Grounded` has the demand for rules as a parameter.
-/

namespace DocumentSchema

open DocumentSchema.Path

/-! ## The container of a step -/

/-- The kind of container that a step goes down from. -/
def Step.container {ι : Type} : Step ι → ContainerKind
  | .member _ => .object
  | .element _ => .list

/-- The strictness that a step passes on to the path it goes down from. -/
def passOn (parent : String) (strictness : Strictness) : TemplateStep → Strictness
  | .member _ => if isRoot parent then .required else .unknown
  | .element _ => strictness

theorem containerStep?_of_isRoot {path : String} (h : isRoot path = true)
    (strictness : Strictness) : containerStep? path strictness = none := if_pos h

theorem containersAbove_of_isRoot {path : String} (h : isRoot path = true) (fuel : Nat)
    (strictness : Strictness) : containersAbove fuel path strictness = [] := by
  rcases fuel with _ | fuel
  · rfl
  · rw [containersAbove, containerStep?_of_isRoot h]

theorem containerStep?_down {parent : String} (h : IsTemplate parent) {step : TemplateStep}
    (hstep : step.IsWritable) (strictness : Strictness) :
    containerStep? (down parent step) strictness
      = some (parent, step.container, passOn parent strictness step) := by
  cases step with
  | element _ =>
    rw [down, containerStep?, if_neg (by simp [isRoot_element]), stripMarker?_element]
    rfl
  | member key =>
    rw [down, containerStep?, if_neg (by simp [isRoot_child parent hstep]),
      stripMarker?_child parent hstep]
    by_cases hroot : isRoot parent = true
    · rw [h.eq_root_of_isRoot hroot, child_root]
      simp only [splitLastDot?_of_notMem hstep.dot_notMem]
      rfl
    · rw [Bool.not_eq_true] at hroot
      simp [splitLastDot?_child hroot hstep, Step.container, passOn, hroot]

/-! ## Ascents -/

/-- The demand gives its path a rule for a kind of container. -/
def Demand.Backs (demand : Demand) (kind : ContainerKind) : Prop :=
  match demand.part with
  | .element => False
  | .declared type => type.type = kind.type
  | .container other => other = kind

/-- Demands that go up to the root, each on the path above the one before, which it backs. -/
inductive Ascent : List Demand → Prop
  | root {demand : Demand} : demand.path = root → Ascent [demand]
  | up {demand next : Demand} {rest : List Demand} {step : TemplateStep} : step.IsWritable →
      demand.path = down next.path step → next.Backs step.container → Ascent (next :: rest) →
      Ascent (demand :: next :: rest)

theorem Ascent.isTemplate {demands : List Demand} (h : Ascent demands) :
    ∀ demand ∈ demands, IsTemplate demand.path := by
  induction h with
  | root hroot =>
    intro demand hdemand
    rw [List.mem_singleton.mp hdemand, hroot]
    exact .root
  | up hstep hpath _ _ ih =>
    intro demand hdemand
    rcases List.mem_cons.mp hdemand with rfl | hdemand
    · rw [hpath]
      exact (ih _ List.mem_cons_self).down hstep
    · exact ih demand hdemand

/-- The fuel of `containersAbove` is enough if it is no less than the number of steps. -/
theorem ascent_containersAbove {path : String} (h : IsTemplate path) {fuel : Nat}
    (hfuel : (steps path).length ≤ fuel) (strictness : Strictness) {demand : Demand}
    (hdemand : demand.path = path) : Ascent (demand :: containersAbove fuel path strictness) := by
  induction h generalizing fuel strictness demand with
  | root =>
    cases fuel with
    | zero => exact .root hdemand
    | succ fuel => exact .root hdemand
  | @down parent step hparent hstep ih =>
    rw [steps_down parent hstep, List.length_append, List.length_singleton] at hfuel
    cases fuel with
    | zero => omega
    | succ fuel =>
      rw [containersAbove, containerStep?_down hparent hstep]
      exact .up hstep hdemand rfl (ih (by omega) _ rfl)

/-- **The walk of a declaration ascends.** -/
theorem ascent_walk {path : String} (h : IsTemplate path) (type : ResolvedType)
    (strictness : Strictness) : Ascent (walk path type strictness) := by
  -- The fuel of a walk is the length of the path, which is no less than its number of steps.
  have hup : Ascent (⟨path, strictness, .declared type⟩ ::
      containersAbove (path.length + 1) path strictness) :=
    ascent_containersAbove h (by have := h.length_steps_le; omega) strictness rfl
  rw [walk]
  split
  · rename_i hlist
    -- A list that is named also makes a demand on its elements, one step further down.
    rw [Bool.and_eq_true, decide_eq_true_eq] at hlist
    exact @Ascent.up _ _ _ (.element ()) trivial rfl hlist.1 hup
  · exact hup

theorem declared_mem_walk (path : String) (type : ResolvedType) (strictness : Strictness) :
    ⟨path, strictness, .declared type⟩ ∈ walk path type strictness :=
  List.mem_append_right _ List.mem_cons_self

theorem element_mem_walk (path : String) {type : ResolvedType} (strictness : Strictness)
    (htype : type.type = .list) (hnamed : type.implicit = false) :
    ⟨element path, strictness, .element⟩ ∈ walk path type strictness := by
  rw [walk, if_pos (by simp [htype, hnamed])]
  exact List.mem_cons_self

theorem Ascent.exists_root {demands : List Demand} (h : Ascent demands) :
    ∃ demand ∈ demands, demand.path = Path.root := by
  induction h with
  | root hroot => exact ⟨_, List.mem_singleton_self _, hroot⟩
  | up _ _ _ _ ih =>
    obtain ⟨demand, hdemand, hroot⟩ := ih
    exact ⟨demand, List.mem_cons_of_mem _ hdemand, hroot⟩

/-! ## Strictness on the way up -/

/-- Whatever a walk asks below a path it passes on to the path. -/
private theorem exists_above_of_mem_containersAbove {path : String} (h : IsTemplate path)
    {fuel : Nat} (hfuel : (steps path).length ≤ fuel) (first : Demand) {demand : Demand}
    (hfirst : first.path = path)
    (hdemand : demand ∈ first :: containersAbove fuel path first.strictness) {parent : String}
    {step : TemplateStep} (hparent : IsTemplate parent) (hstep : step.IsWritable)
    (hdown : demand.path = down parent step) :
    ∃ above ∈ containersAbove fuel path first.strictness, above.path = parent ∧
      above.strictness = passOn parent demand.strictness step := by
  induction h generalizing fuel first with
  | root =>
    rw [containersAbove_of_isRoot isRoot_root, List.mem_singleton] at hdemand
    have hroot := isRoot_down parent hstep
    rw [← hdown, hdemand, hfirst, isRoot_root] at hroot
    cases hroot
  | @down before last hbefore hlast ih =>
    rw [steps_down before hlast, List.length_append, List.length_singleton] at hfuel
    cases fuel with
    | zero => omega
    | succ fuel =>
      rw [containersAbove, containerStep?_down hbefore hlast] at hdemand ⊢
      rcases List.mem_cons.mp hdemand with rfl | hdemand
      · rw [hfirst] at hdown
        obtain ⟨rfl, rfl⟩ := (hbefore.down_inj hparent hlast hstep).mp hdown
        exact ⟨_, List.mem_cons_self, rfl, rfl⟩
      · let next : Demand :=
          ⟨before, passOn before first.strictness last, .container last.container⟩
        obtain ⟨above, habove, hpath, hstrictness⟩ :=
          ih (by omega) next rfl hdemand
        exact ⟨above, List.mem_cons_of_mem _ habove, hpath, hstrictness⟩

/-- **A walk goes up step by step**, and a demand below a path comes with one on the path, to which
it passes its strictness on. -/
theorem exists_above_of_mem_walk {path : String} (h : IsTemplate path) {type : ResolvedType}
    {strictness : Strictness} {demand : Demand} (hdemand : demand ∈ walk path type strictness)
    {parent : String} {step : TemplateStep} (hparent : IsTemplate parent)
    (hstep : step.IsWritable) (hdown : demand.path = down parent step) :
    ∃ above ∈ walk path type strictness, above.path = parent ∧
      above.strictness = passOn parent demand.strictness step := by
  let declared : Demand := ⟨path, strictness, .declared type⟩
  rw [walk, List.mem_append] at hdemand
  rcases hdemand with helement | hdemand
  · split at helement
    · -- The elements of a list that is named stand directly below the path that is declared.
      rw [List.mem_singleton.mp helement] at hdown ⊢
      obtain ⟨rfl, rfl⟩ := (h.down_inj hparent (show Step.IsWritable (.element ()) from trivial)
        hstep).mp hdown
      exact ⟨declared, List.mem_append_right _ List.mem_cons_self, rfl, rfl⟩
    · cases helement
  · obtain ⟨above, habove, hpath, hstrictness⟩ := exists_above_of_mem_containersAbove h
      (by have := h.length_steps_le; omega) declared rfl hdemand hparent hstep hdown
    exact ⟨above, List.mem_append_right _ (List.mem_cons_of_mem _ habove), hpath, hstrictness⟩

/-- Members make the root required, and nothing that can be declared is below the elements of the
root. -/
theorem strictness_of_mem_containersAbove_root {path : String} (h : IsTemplate path)
    (hhead : (steps path).head? ≠ some (.element ())) {fuel : Nat} {strictness : Strictness}
    {demand : Demand} (hdemand : demand ∈ containersAbove fuel path strictness)
    (hroot : demand.path = root) : demand.strictness = .required := by
  induction h generalizing fuel strictness with
  | root =>
    rw [containersAbove_of_isRoot isRoot_root] at hdemand
    cases hdemand
  | @down parent step hparent hstep ih =>
    cases fuel with
    | zero => cases hdemand
    | succ fuel =>
      rw [steps_down parent hstep] at hhead
      rw [containersAbove, containerStep?_down hparent hstep] at hdemand
      rcases List.mem_cons.mp hdemand with rfl | hdemand
      · obtain rfl : parent = root := hroot
        cases step with
        | member key => rfl
        | element _ => simp at hhead
      · refine ih ?_ hdemand
        cases habove : steps parent with
        | nil => simp
        | cons first rest =>
          rwa [habove, List.cons_append, List.head?_cons] at hhead

end DocumentSchema
