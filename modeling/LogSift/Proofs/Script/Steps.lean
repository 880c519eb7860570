import LogSift.Script.Run
/-!
# Runs, step by step

A run is its directives performed one after the other up to the first
that meets a problem, so runs compose (`performAll_append`), a run that
is over stays as it is whatever comes after (`performAll_append_of_problem`),
and a run that meets a problem splits at the directive that meets it
(`exists_failing_of_problem`). What every step keeps a run keeps
(`performAll_invariant`, `run_invariant`), and it is enough that the steps
of its own directives do (`run_invariant_of_parse`).

A script gets as far as its first directive iff it is `Accepted`: it is
read, it has a directive, and all are valid. Any other script is refused
and leaves the workspace alone.
-/


namespace LogSift

namespace Script

variable {world : World} {w : Workspace} {d : Directive} {ds before after : List Directive}
variable {problem : Problem} {script : String}

theorem step_of_changesLog (h : d.changesLog = true) (world : World) (w : Workspace) :
    step world w d = d.perform world w.forgetProjection := by
  rw [step, if_pos h]

theorem step_of_not_changesLog (h : d.changesLog = false) (world : World) (w : Workspace) :
    step world w d = d.perform world w := by
  rw [step, h, if_neg (by decide)]

/-- **What performing keeps a step keeps**, if it is not about the projection. -/
theorem step_invariant {P : Workspace → Prop} (hforget : ∀ w, P w → P w.forgetProjection)
    (hperform : ∀ w, P w → P (d.perform world w).workspace) (hw : P w) :
    P (step world w d).workspace := by
  rw [step]
  split
  · exact hperform _ (hforget w hw)
  · exact hperform w hw

/-! ## Performing directives in order -/

theorem performAll_cons_of_problem (h : (step world w d).problem = some problem) :
    performAll world w (d :: ds) =
      (⟨(step world w d).reports ++ failure d problem, (step world w d).workspace, some problem⟩,
        [d.op]) := by
  simp only [performAll, h]

theorem performAll_cons_of_done (h : (step world w d).problem = none) :
    performAll world w (d :: ds) =
      (⟨(step world w d).reports ++
          completed :: (performAll world (step world w d).workspace ds).1.reports,
        (performAll world (step world w d).workspace ds).1.workspace,
        (performAll world (step world w d).workspace ds).1.problem⟩,
        d.op :: (performAll world (step world w d).workspace ds).2) := by
  simp only [performAll, h]

/-- **What the steps of a run keep the run keeps**, whether or not it meets a problem. -/
theorem performAll_invariant_of_mem {P : Workspace → Prop}
    (hstep : ∀ d ∈ ds, ∀ w, P w → P (step world w d).workspace) (hw : P w) :
    P (performAll world w ds).1.workspace := by
  induction ds generalizing w with
  | nil => exact hw
  | cons d ds ih =>
    obtain ⟨hd, hds⟩ := List.forall_mem_cons.mp hstep
    rcases hp : (step world w d).problem with _ | problem
    · rw [performAll_cons_of_done hp]
      exact ih hds (hd w hw)
    · rw [performAll_cons_of_problem hp]
      exact hd w hw

/-- **What every step keeps a run keeps**, whether or not it meets a
problem. -/
theorem performAll_invariant {P : Workspace → Prop}
    (hstep : ∀ w d, P w → P (step world w d).workspace) (hw : P w) :
    P (performAll world w ds).1.workspace :=
  performAll_invariant_of_mem (fun d _ w => hstep w d) hw

/-- **A run that is over stays as it is**: what comes after the directive
that has met a problem has no effect. -/
theorem performAll_append_of_problem (h : (performAll world w before).1.problem = some problem) :
    performAll world w (before ++ after) = performAll world w before := by
  induction before generalizing w with
  | nil => simp [performAll] at h
  | cons d before ih =>
    rw [List.cons_append]
    rcases hp : (step world w d).problem with _ | problem'
    · rw [performAll_cons_of_done hp] at h ⊢
      rw [performAll_cons_of_done hp, ih h]
    · rw [performAll_cons_of_problem hp, performAll_cons_of_problem hp]

/-- **Runs compose**: where the first one meets no problem the second
starts from what it has left. -/
theorem performAll_append (h : (performAll world w before).1.problem = none) :
    performAll world w (before ++ after) =
      (⟨(performAll world w before).1.reports ++
          (performAll world (performAll world w before).1.workspace after).1.reports,
        (performAll world (performAll world w before).1.workspace after).1.workspace,
        (performAll world (performAll world w before).1.workspace after).1.problem⟩,
        (performAll world w before).2 ++
          (performAll world (performAll world w before).1.workspace after).2) := by
  induction before generalizing w with
  | nil => simp [performAll]
  | cons d before ih =>
    rw [List.cons_append]
    rcases hp : (step world w d).problem with _ | problem'
    · rw [performAll_cons_of_done hp] at h ⊢
      rw [performAll_cons_of_done hp, ih h]
      simp
    · rw [performAll_cons_of_problem hp] at h
      cases h

theorem firstInvalid?_eq_none_iff :
    firstInvalid? ds = none ↔ ∀ d ∈ ds, d.validate = .ok () := by
  induction ds with
  | nil => simp [firstInvalid?]
  | cons d ds ih =>
    rw [firstInvalid?, List.forall_mem_cons]
    split
    · rename_i hvalid
      rw [ih, hvalid, and_iff_right rfl]
    · rename_i problem hinvalid
      simp [hinvalid]

/-- What is found is a directive that is not valid. -/
theorem of_firstInvalid?_eq_some (h : firstInvalid? ds = some (d, problem)) :
    d ∈ ds ∧ d.validate = .error problem := by
  induction ds with
  | nil => cases h
  | cons e ds ih =>
    rw [firstInvalid?] at h
    split at h
    · obtain ⟨hd, hinvalid⟩ := ih h
      exact ⟨List.mem_cons_of_mem e hd, hinvalid⟩
    · rename_i hinvalid
      cases h
      exact ⟨List.mem_cons_self, hinvalid⟩

/-- The script is read as these directives, at least one, and all of them
are valid. -/
structure Accepted (script : String) (ds : List Directive) : Prop where
  parsed : parse script = .ok ds
  nonempty : ds ≠ []
  valid : firstInvalid? ds = none

/-- An accepted script performs its directives. -/
theorem run_of_accepted (h : Accepted script ds) : run world script w = execute world w ds := by
  obtain ⟨hparse, hne, hvalid⟩ := h
  cases ds with
  | nil => exact absurd rfl hne
  | cons d ds => simp only [run, hparse, hvalid]

/-- **A script is accepted or refused**, and a refused one leaves the
workspace alone and has no label. -/
theorem run_cases (world : World) (script : String) (w : Workspace) :
    (∃ ds, Accepted script ds ∧ run world script w = execute world w ds) ∨
      ∃ reports, run world script w = refuse w reports := by
  rcases hparse : parse script with fault | ds
  · exact Or.inr ⟨_, by simp only [run, hparse]; rfl⟩
  · cases ds with
    | nil => exact Or.inr ⟨_, by simp only [run, hparse]; rfl⟩
    | cons d ds =>
      rcases hvalid : firstInvalid? (d :: ds) with _ | invalid
      · have ha : Accepted script (d :: ds) := ⟨hparse, by simp, hvalid⟩
        exact Or.inl ⟨d :: ds, ha, run_of_accepted ha⟩
      · exact Or.inr ⟨_, by simp only [run, hparse, hvalid]; rfl⟩

/-- What a run leaves is what its directives leave. -/
theorem execute_workspace (world : World) (w : Workspace) (ds : List Directive) :
    (execute world w ds).workspace = (performAll world w ds).1.workspace := by
  simp only [execute, finish]
  split <;> rfl

/-- A run succeeds iff no directive meets a problem. -/
theorem execute_success_iff (world : World) (w : Workspace) (ds : List Directive) :
    (execute world w ds).success = true ↔ (performAll world w ds).1.problem = none := by
  simp only [execute, finish]
  split
  · rename_i h
    simp [h]
  · rename_i h
    simp [h]

/-- **What its directives keep a script keeps**, however it ends. -/
theorem run_invariant_of_parse {P : Workspace → Prop}
    (hstep : ∀ ds, parse script = .ok ds → ∀ d ∈ ds, ∀ w, P w → P (step world w d).workspace)
    (hw : P w) : P (run world script w).workspace := by
  rcases run_cases world script w with ⟨ds, haccepted, hrun⟩ | ⟨reports, hrun⟩
  · rw [hrun, execute_workspace]
    exact performAll_invariant_of_mem (hstep ds haccepted.parsed) hw
  · rw [hrun]
    exact hw

/-- **What every step keeps a script keeps**, however it ends. -/
theorem run_invariant {P : Workspace → Prop}
    (hstep : ∀ w d, P w → P (step world w d).workspace) (hw : P w) :
    P (run world script w).workspace :=
  run_invariant_of_parse (fun _ _ d _ w => hstep w d) hw

end Script

end LogSift
