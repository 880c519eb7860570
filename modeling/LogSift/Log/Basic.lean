import LogSift.Address

/-!
# Logs

A log is a list of lines. An operation that works line by line is given as a function that
yields the new line, or `none` where it does not apply; `Log.update` performs it and
`Log.countUpdates` counts the lines it applies to. Whatever adds or removes lines numbers them
anew from one on.
-/

namespace LogSift

/-- The lines in hand, in order. -/
abbrev Log := List Line

namespace Log

/-- The log of some texts, numbered from one on. -/
def ofTexts (texts : List String) : Log := texts.mapIdx fun i t => Line.ofText t (i + 1)

/-- Adds lines at the end, numbered from the length on. -/
def appendTexts (log : Log) (texts : List String) : Log :=
  log ++ texts.mapIdx fun i t => Line.ofText t (log.length + i + 1)

/-- The number of lines that are shown. -/
def visibleCount (log : Log) : Nat := log.countP (·.visible)

/-- The lines numbered from one on. -/
def renumber (log : Log) : Log := log.mapIdx fun i l => { l with number := i + 1 }

/-- Changes the lines that an operation applies to. -/
def update (op : Line → Option Line) (log : Log) : Log := log.map fun l => (op l).getD l

/-- The number of lines that an operation applies to. -/
def countUpdates (op : Line → Option Line) (log : Log) : Nat := log.countP fun l => (op l).isSome

/-- Performs an operation on each line, and counts the lines it applies to. -/
def updateAll (op : Line → Option Line) (log : Log) : Nat × Log :=
  (countUpdates op log, update op log)

/-- Removes the hidden lines, and counts them. -/
def chop (log : Log) : Nat × Log :=
  (log.countP fun l => !l.visible, renumber (log.filter (·.visible)))

/-- Shortens each line to a number of characters, and counts the lines that were longer. -/
def truncate (limit : Nat) (log : Log) : Nat × Log :=
  updateAll (fun l => if l.exceeds limit then some (l.truncate limit) else none) log

end Log

end LogSift
