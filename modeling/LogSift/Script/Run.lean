import LogSift.Script.Parse
import LogSift.Script.Perform

/-!
# Running a script

A script is parsed as a whole and checked as a whole before any directive is performed. Then the
directives are performed in order, up to the first that meets a problem. The projection of the
log is forgotten before a directive that works on the log.
-/

namespace LogSift

/-- What running a script leads to. -/
structure Outcome where
  success : Bool
  workspace : Workspace
  /-- What the script is called in a history; nothing if no directive has been performed. -/
  label : Option String
  reports : List Report

namespace Script

/-- The label of directives by their operators: the first and the last. -/
def label : List String → Option String
  | [] => none
  | [only] => some only
  | first :: rest => some s!"{first} .. {rest.getLastD first}"

/-- A run that is over. -/
def finish (success : Bool) (w : Workspace) (label : Option String) (reports : List Report) :
    Outcome :=
  ⟨success, w, label, reports ++ [.done label w.log]⟩

/-- A script that is not run. -/
def refuse (w : Workspace) (reports : List Report) : Outcome := finish false w none reports

/-- The first directive that is not valid. -/
def firstInvalid? : List Directive → Option (Directive × Problem)
  | [] => none
  | d :: rest =>
    match d.validate with
    | .ok _ => firstInvalid? rest
    | .error problem => some (d, problem)

/-- Performs a directive, after the projection has been forgotten if it works on the log. -/
def step (world : World) (w : Workspace) (d : Directive) : Performance :=
  d.perform world (if d.changesLog then w.forgetProjection else w)

/-- What is reported of a directive that has met a problem. -/
def failure (d : Directive) (problem : Problem) : List Report := [
  .warning "command failed" [("op", d.op), ("error", problem.message)],
  .progress problem.message]

/-- What is reported of a directive that is done. Its time is not measured. -/
def completed : Report := .progress "... (0.000 seconds)"

/-- Performs directives up to the first that meets a problem. The result also has the operators
of the directives that were started. -/
def performAll (world : World) : Workspace → List Directive → Performance × List String
  | w, [] => (⟨[], w, none⟩, [])
  | w, d :: rest =>
    let p := step world w d
    match p.problem with
    | some problem => (⟨p.reports ++ failure d problem, p.workspace, some problem⟩, [d.op])
    | none =>
      let (more, ops) := performAll world p.workspace rest
      (⟨p.reports ++ completed :: more.reports, more.workspace, more.problem⟩, d.op :: ops)

/-- Performs the directives of a script that is valid. -/
def execute (world : World) (w : Workspace) (ds : List Directive) : Outcome :=
  let start := Report.info "running script"
    [("commands", toString ds.length), ("records", toString w.log.length)]
  let (p, ops) := performAll world w ds
  match p.problem with
  | some _ => finish false p.workspace (label ops) (start :: p.reports)
  | none =>
    let found := if ds.any (·.changesLog) then
        [Report.progress s!"Found {p.workspace.log.visibleCount} lines to display"]
      else []
    finish true p.workspace (label ops) (start :: p.reports ++ found)

/-- Runs a script. -/
def run (world : World) (script : String) (w : Workspace) : Outcome :=
  match parse script with
  | .error fault =>
    refuse w [
      .warning "script failed to parse" [("error", fault.message)],
      .progress fault.message,
      .progress "PARSING FAILED"]
  | .ok [] => refuse w [.progress "NO COMMANDS IN SCRIPT"]
  | .ok ds =>
    match firstInvalid? ds with
    | some (d, problem) =>
      refuse w [
        .warning "validation failed"
          [("op", s!"\"{d.op}\""), ("error", problem.message)],
        .progress problem.message]
    | none => execute world w ds

end Script

end LogSift
