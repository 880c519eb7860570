import LogSift.Proofs.History
import LogSift.Proofs.Script.Steps
import LogSift.Session
/-!
# Sessions, step by step

What is done to a session is a list of steps, each a script that is run
or an undo, and each step has an answer. The world may be another for
every script. A property of workspaces that holds at the start and is
kept by every directive holds after any steps (`after_invariant`): an
undo goes back to a workspace that a snapshot holds, so the property is
carried for the snapshots too (`Holds`). It is enough that the steps taken
keep it (`after_invariant_of_keeps`).
-/


namespace LogSift

/-- A world without files and without a query engine. -/
def World.bare : World := ⟨.empty [], ⟨0, 0⟩, 0, none⟩

namespace Session

/-- One thing done to a session. -/
inductive Step
  /-- A script is run. -/
  | run (world : World) (script : String)
  /-- The last script is taken back. -/
  | undo

/-- What a step answers. -/
inductive Answer
  | ran (o : Outcome)
  /-- The label of the script taken back, if there was one. -/
  | undone (label : Option String)

/-- Takes a step. -/
def take (s : Session) : Step → Answer × Session
  | .run world script => (.ran (s.run world script).1, (s.run world script).2)
  | .undo =>
    match s.undo? with
    | none => (.undone none, s)
    | some (t, s) => (.undone (some t.label), s)

/-- The session after some steps. -/
def after (s : Session) (steps : List Step) : Session :=
  steps.foldl (fun s step => (s.take step).2) s

/-- The answers of some steps. -/
def answers (s : Session) : List Step → List Answer
  | [] => []
  | step :: rest => (s.take step).1 :: (s.take step).2.answers rest

@[simp] theorem after_nil (s : Session) : s.after [] = s := rfl

@[simp] theorem after_cons (s : Session) (step : Step) (rest : List Step) :
    s.after (step :: rest) = (s.take step).2.after rest := rfl

end Session

namespace Session

variable {P : Workspace → Prop} {s : Session} {world : World} {script label : String}

/-- A script without a label leaves no trace. -/
theorem run_of_label_none (h : (Script.run world script s.workspace).label = none) :
    s.run world script = (Script.run world script s.workspace, s) := by
  simp only [run, h]

/-- A script with a label is applied, and a snapshot taken of what was
before. -/
theorem run_of_label_some (h : (Script.run world script s.workspace).label = some label) :
    s.run world script =
      ((Script.run world script s.workspace).recorded s.history.nextId label,
        ⟨(Script.run world script s.workspace).workspace,
          s.history.push world.now label s.workspace⟩) := by
  simp only [run, h]

/-- A property of the workspace and of those in the history. -/
structure Holds (P : Workspace → Prop) (s : Session) : Prop where
  workspace : P s.workspace
  snapshots : ∀ t ∈ s.history.snapshots, P t.workspace

/-- **The step keeps a property**, as an undo keeps all of them. -/
def Step.Keeps (P : Workspace → Prop) : Step → Prop
  | .run world script => ∀ w, P w → P (Script.run world script w).workspace
  | .undo => True

theorem take_holds {step : Step} (hstep : step.Keeps P) (hs : s.Holds P) :
    (s.take step).2.Holds P := by
  cases step with
  | run world script =>
    rcases hlabel : (Script.run world script s.workspace).label with _ | label
    · rw [take, run_of_label_none hlabel]
      exact hs
    · rw [take, run_of_label_some hlabel]
      refine ⟨hstep _ hs.workspace, fun t ht => ?_⟩
      obtain ⟨kept, hkept, heq⟩ := s.history.push_snapshots world.now label s.workspace
      rw [heq, List.mem_append, List.mem_singleton] at ht
      -- a snapshot that was there, or the new one, which holds the workspace of before
      rcases ht with ht | rfl
      · exact hs.snapshots t (hkept.subset ht)
      · exact hs.workspace
  | undo =>
    rcases hlast : s.history.snapshots.getLast? with _ | t
    · simp only [take, undo?, History.pop?_eq, hlast, Option.map_none]
      exact hs
    · simp only [take, undo?, History.pop?_eq, hlast, Option.map_some]
      exact ⟨hs.snapshots t (List.mem_of_getLast? hlast),
        fun u hu => hs.snapshots u (List.dropLast_subset _ hu)⟩

/-- **What every step keeps a session keeps**, whatever scripts are run and taken back. -/
theorem after_holds {steps : List Step} (hsteps : ∀ step ∈ steps, step.Keeps P) (hs : s.Holds P) :
    (s.after steps).Holds P := by
  induction steps generalizing s with
  | nil => exact hs
  | cons step steps ih =>
    obtain ⟨hstep, hrest⟩ := List.forall_mem_cons.mp hsteps
    exact ih hrest (take_holds hstep hs)

/-- **And so it holds of the workspace** reached from an empty one. -/
theorem after_invariant_of_keeps {steps : List Step} (hsteps : ∀ step ∈ steps, step.Keeps P)
    {settings : Settings} (hstart : P ⟨[], settings⟩) (budget : Nat) :
    P ((start settings budget).after steps).workspace :=
  (after_holds hsteps ⟨hstart, by simp [start, History.empty]⟩).workspace

/-- **What every directive keeps holds of every workspace reached from an empty one.** -/
theorem after_invariant (hstep : ∀ world w d, P w → P (Script.step world w d).workspace)
    {settings : Settings} (hstart : P ⟨[], settings⟩) (budget : Nat) (steps : List Step) :
    P ((start settings budget).after steps).workspace := by
  refine after_invariant_of_keeps (fun step _ => ?_) hstart budget
  cases step with
  | run world script => exact fun w hw => Script.run_invariant (hstep world) hw
  | undo => trivial

end Session

end LogSift
