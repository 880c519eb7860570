import LogSift.History
import LogSift.Script.Run

/-!
# Sessions

A session runs one script after the other on its workspace, and takes them back. A script that has
been run in part counts as run; one that has not been run at all leaves no trace.
-/

namespace LogSift

/-- A workspace and how it came about. -/
structure Session where
  workspace : Workspace
  history : History

/-- What running a script leads to, with a record of the snapshot taken for it. -/
def Outcome.recorded (o : Outcome) (id : Nat) (label : String) : Outcome :=
  let applied := Report.info "script applied"
    [("id", toString id), ("label", label), ("success", toString o.success)]
  { o with reports := o.reports ++ [applied] }

namespace Session

/-- A session without lines. -/
def start (settings : Settings) (budget : Nat) : Session := ⟨⟨[], settings⟩, .empty budget⟩

/-- Runs a script. -/
def run (world : World) (script : String) (s : Session) : Outcome × Session :=
  let o := Script.run world script s.workspace
  match o.label with
  | none => (o, s)
  | some label =>
    (o.recorded s.history.nextId label, ⟨o.workspace, s.history.push world.now label s.workspace⟩)

/-- Takes the last script back that is in the history. The result has the snapshot it has gone
back to. -/
def undo? (s : Session) : Option (Snapshot × Session) :=
  s.history.pop?.map fun (t, history) => (t, ⟨t.workspace, history⟩)

end Session

/-- The record of a script taken back. -/
def Snapshot.undone (s : Snapshot) : Report :=
  .info "undo" [("id", toString s.id), ("label", s.label)]

end LogSift
