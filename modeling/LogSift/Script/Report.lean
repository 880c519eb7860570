import LogSift.Log.Basic

/-!
# Reports

While a script runs it reports what it does: in words for its user, and in records for a log of
its own.
-/

namespace LogSift

/-- How serious a record is. -/
inductive Severity
  | info
  | warning
deriving DecidableEq, Repr

/-- A record of what has been done, with named details. -/
structure Record where
  severity : Severity
  message : String
  details : List (String × String)
deriving DecidableEq, Repr

/-- Something that a run reports. -/
inductive Report
  /-- A line for the user. -/
  | progress (text : String)
  | record (r : Record)
  /-- A number of seconds pass. -/
  | pause (seconds : Nat)
  /-- The run is over; its label is there if any directive has been run. -/
  | done (label : Option String) (log : Log)
deriving DecidableEq, Repr

namespace Report

/-- A record of something that goes as it should. -/
def info (message : String) (details : List (String × String)) : Report :=
  .record ⟨.info, message, details⟩

/-- A record of something that fails. -/
def warning (message : String) (details : List (String × String)) : Report :=
  .record ⟨.warning, message, details⟩

/-- The line of a report for the user. -/
def text? : Report → Option String
  | progress text => some text
  | _ => none

end Report

end LogSift
