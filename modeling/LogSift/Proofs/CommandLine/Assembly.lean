import LogSift.CommandLine
import LogSift.Proofs.Script.Reading
import LogSift.Proofs.Session.Steps
/-!
# Scripts one after the other

The command line joins the texts of files and expressions by line feeds
into one script. That is read and checked as a whole before any of it is
performed, but what it leads to is what the texts lead to one after the
other (`run_join`): nothing but the workspace is handed on from one to the
next, and a text that fails is the last to have an effect.
-/


namespace LogSift

namespace Script

variable {a b : String} {ds es : List Directive}

/-- **Performing directives in two goes.** Where the first ones succeed, all
do what the others do after them, and where the first ones fail the others
are not performed. -/
theorem execute_append (world : World) (w : Workspace) (ds es : List Directive) :
    let first := execute world w ds
    let second := execute world first.workspace es
    let all := execute world w (ds ++ es)
    (first.success = true → all.success = second.success ∧ all.workspace = second.workspace) ∧
      (first.success = false → all.success = false ∧ all.workspace = first.workspace) := by
  intro first second all
  have hfirst := execute_success_iff world w ds
  have hall := execute_success_iff world w (ds ++ es)
  have hsecond := execute_success_iff world first.workspace es
  rcases hproblem : (performAll world w ds).1.problem with _ | problem
  · -- the others start where the first ones have ended
    have hsuccess : first.success = true := hfirst.mpr hproblem
    have happend : performAll world w (ds ++ es) = _ := performAll_append hproblem
    rw [← execute_workspace] at happend
    refine ⟨fun _ => ⟨?_, ?_⟩, fun hfailed => ?_⟩
    · rw [happend] at hall
      exact Bool.eq_iff_iff.mpr (hall.trans hsecond.symm)
    · rw [execute_workspace, execute_workspace, happend]
    · rw [hsuccess] at hfailed
      cases hfailed
  · -- the run is over before the others
    have hfailed : first.success = false := by simpa [hproblem] using hfirst
    have happend : performAll world w (ds ++ es) = _ := performAll_append_of_problem hproblem
    refine ⟨fun hsuccess => ?_, fun _ => ⟨?_, ?_⟩⟩
    · rw [hsuccess] at hfailed
      cases hfailed
    · simpa [happend, hproblem] using hall
    · rw [execute_workspace, execute_workspace, happend]

/-- **Running a script joined from two is running one after the other.**
Each of them is accepted on its own. If the first succeeds, the joined one
succeeds as the second does from where the first has ended, and ends where
that ends; if the first fails, the joined one fails, too, and ends where the
first does. The world is the same for all three: the files, the time, and
the seed of demonstrations that name none. -/
theorem run_join (ha : Accepted a ds) (hb : Accepted b es) (world : World) (w : Workspace) :
    let first := run world a w
    let second := run world b first.workspace
    let joined := run world (a ++ "\n" ++ b) w
    (first.success = true →
        joined.success = second.success ∧ joined.workspace = second.workspace) ∧
      (first.success = false → joined.success = false ∧ joined.workspace = first.workspace) ∧
      ∀ files, CommandLine.assemble files [] [a, b] = .ok (a ++ "\n" ++ b) := by
  intro first second joined
  have hfirst : first = execute world w ds := run_of_accepted ha
  have hsecond : second = execute world first.workspace es := run_of_accepted hb
  have hjoined : joined = execute world w (ds ++ es) := run_of_accepted (ha.join hb)
  obtain ⟨hsuccess, hfailed⟩ := execute_append world w ds es
  rw [hsecond, hjoined, hfirst]
  exact ⟨hsuccess, hfailed, fun _ => rfl⟩

/-- The first script ends within a line break and the second starts with a
blank line and a comment. Joined they set a limit and clear the log, as they
do one after the other. -/
theorem run_join_of_split_line_break :
    Accepted "limit 1\r" [.limit 1] ∧ Accepted "\n # all\nclear" [.clear] ∧
      (run .bare ("limit 1\r" ++ "\n" ++ "\n # all\nclear")
        ⟨Log.ofTexts ["x"], Settings.initial⟩).workspace =
          ⟨[], { Settings.initial with limit := 1 }⟩ := by
  have ha : Accepted "limit 1\r" [.limit 1] := ⟨by rfl, by simp, rfl⟩
  have hb : Accepted "\n # all\nclear" [.clear] := ⟨by rfl, by simp, rfl⟩
  obtain ⟨hsuccess, -, -⟩ := run_join ha hb .bare ⟨Log.ofTexts ["x"], Settings.initial⟩
  refine ⟨ha, hb, ?_⟩
  rw [(hsuccess (by rfl)).2]
  rfl

end Script

end LogSift
