import LogSift.Proofs.Script.Refusal
import LogSift.Proofs.Session.Steps
/-!
# Sessions and refused scripts

A session goes by the label of a run: without one it stays as it is, with
one it takes a snapshot of what was there. That a run has no label iff the
script is refused, and that a refused script changes nothing, makes this
the right thing to go by (`run_all_or_nothing`).
-/


namespace LogSift

namespace Session

variable {s : Session} {world : World} {script label : String}

/-- The session is where the run has ended. -/
theorem run_workspace (world : World) (script : String) (s : Session) :
    (s.run world script).2.workspace = (Script.run world script s.workspace).workspace := by
  rcases hlabel : (Script.run world script s.workspace).label with _ | label
  · rw [run_of_label_none hlabel]
    obtain ⟨reports, -, hrun⟩ :=
      Script.run_of_refused ((Script.run_label_eq_none_iff _ _ _).mp hlabel) world s.workspace
    rw [hrun]
    rfl
  · rw [run_of_label_some hlabel]

/-- The outcome of a session is the outcome of the run, and a record of the
snapshot may have been added to its reports. -/
theorem run_outcome (world : World) (script : String) (s : Session) :
    ∃ records, Report.endings records = [] ∧
      (s.run world script).1 =
        { Script.run world script s.workspace with
          reports := (Script.run world script s.workspace).reports ++ records } := by
  rcases hlabel : (Script.run world script s.workspace).label with _ | label
  · exact ⟨[], rfl, by rw [run_of_label_none hlabel, List.append_nil]⟩
  · rw [run_of_label_some hlabel]
    exact ⟨_, rfl, rfl⟩

/-- **Nothing is performed unless everything is read and valid.** A run has
no label iff the script is refused: it cannot be read, has no directive, or
one of its directives is not valid. Then it fails where it has started, and
the session stays as it is, its history included. With a label, one snapshot
is pushed, of the workspace before. In any case the outcome and the session
have the same workspace, and the end of the run is reported once, with its
label and that log. -/
theorem run_all_or_nothing (world : World) (script : String) (s : Session) :
    let o := Script.run world script s.workspace
    let ran := s.run world script
    (o.label = none ↔ Script.Refused script) ∧
      (o.label = none → o.success = false ∧ o.workspace = s.workspace ∧ ran.2 = s) ∧
      (∀ label, o.label = some label →
        ran.2.history = s.history.push world.now label s.workspace ∧
          ∃ kept, kept <:+ s.history.snapshots ∧
            ran.2.history.snapshots =
              kept ++ [⟨s.history.nextId, world.now, label, s.workspace⟩]) ∧
      (ran.1.success = o.success ∧ ran.1.label = o.label ∧ ran.1.workspace = o.workspace ∧
        ran.2.workspace = o.workspace) ∧
      Report.endings o.reports = [(o.label, ran.2.workspace.log)] ∧
      Report.endings ran.1.reports = [(o.label, ran.2.workspace.log)] := by
  intro o ran
  have hrefused : o.label = none ↔ Script.Refused script :=
    Script.run_label_eq_none_iff world script s.workspace
  have hworkspace : ran.2.workspace = o.workspace := run_workspace world script s
  have hendings : Report.endings o.reports = [(o.label, ran.2.workspace.log)] := by
    rw [hworkspace]
    exact Script.run_endings world script s.workspace
  obtain ⟨records, hrecords, houtcome⟩ := run_outcome world script s
  refine ⟨hrefused, fun hlabel => ?_, fun label hlabel => ?_, ⟨?_, ?_, ?_, hworkspace⟩,
    hendings, ?_⟩
  · -- refused: nothing is performed, and the session does not change
    obtain ⟨reports, -, hrun⟩ :=
      Script.run_of_refused (hrefused.mp hlabel) world s.workspace
    have hran : ran = (o, s) := run_of_label_none hlabel
    refine ⟨?_, ?_, by rw [hran]⟩
    · exact congrArg Outcome.success hrun
    · exact congrArg Outcome.workspace hrun
  · -- labelled: the workspace of before goes to the history
    have hran : ran = (o.recorded s.history.nextId label,
        ⟨o.workspace, s.history.push world.now label s.workspace⟩) := run_of_label_some hlabel
    rw [hran]
    exact ⟨rfl, s.history.push_snapshots world.now label s.workspace⟩
  · exact (congrArg Outcome.success houtcome :)
  · exact (congrArg Outcome.label houtcome :)
  · exact (congrArg Outcome.workspace houtcome :)
  · have hran : Report.endings ran.1.reports = Report.endings (o.reports ++ records) :=
      congrArg (fun o => Report.endings o.reports) houtcome
    rw [hran, Report.endings_append, hendings, hrecords, List.append_nil]

/-- A directive that is not valid keeps the one before it from being
performed, while one that fails does not undo it, and the session has the
line it has cleared in its history. -/
theorem run_all_or_nothing_of_failing :
    let w : Workspace := ⟨Log.ofTexts ["x"], Settings.initial⟩
    let s : Session := ⟨w, .empty 9⟩
    (s.run .bare "clear\nkv x").2 = s ∧
      (s.run .bare "clear\n< b").2.workspace.log = [] ∧
      (s.run .bare "clear\n< b").2.history = s.history.push ⟨0, 0⟩ "clear .. <" w := by
  intro w s
  obtain ⟨-, hrefused, -⟩ := run_all_or_nothing .bare "clear\nkv x" s
  obtain ⟨-, -, hpushed, ⟨-, -, -, hworkspace⟩, -⟩ := run_all_or_nothing .bare "clear\n< b" s
  refine ⟨(hrefused ?_).2.2, ?_, (hpushed "clear .. <" ?_).1⟩
  · decide +kernel
  · rw [hworkspace]
    decide +kernel
  · decide +kernel

end Session

end LogSift
