import LogSift.Files
import LogSift.Clock.Moment
import LogSift.Settings

/-!
# What scripts work on

A script changes a workspace, the log in hand and the settings. What it finds outside, the files
and the time and a query engine, is its world, and does not change while it runs.
-/

namespace LogSift

/-- The log in hand and the settings. -/
structure Workspace where
  log : Log
  settings : Settings

namespace Workspace

/-- The workspace without the projection, which does not outlive a change of the log. -/
def forgetProjection (w : Workspace) : Workspace :=
  { w with settings := { w.settings with projection := none } }

end Workspace

/-- Answers a query of a projection with rows of values, or says why it cannot. -/
abbrev QueryEngine := Projection → String → Except String (List (List String))

/-- What a script finds outside. -/
structure World where
  files : Files
  now : Moment
  /-- The seed of demonstrations that name none. -/
  seed : Nat
  queryEngine : Option QueryEngine

end LogSift
