import LogSift.Clock.DateFormat
import LogSift.Display.Json
import LogSift.Display.Segment
import LogSift.History

/-!
# Showing logs

A log is shown line by line, in color or without, or as JSON; a history is shown with the newest
snapshot first.
-/

namespace LogSift.Display

/-- How a log is shown. -/
structure Options where
  color : Bool
  lineNumbers : Bool
  showHidden : Bool
  /-- Is there a separator before each section? -/
  sectionSeparator : Bool
  showFields : Bool
deriving DecidableEq, Repr

/-- How a log is shown by default. -/
def Options.initial : Options := ⟨false, true, false, true, false⟩

/-- The text of a line. Hidden ones are dimmed, or in parentheses without color. -/
def body (o : Options) (l : Line) : String :=
  if !l.visible then
    if o.color then Style.dimmed.paint l.text else "(" ++ l.text ++ ")"
  else if o.color then
    let text := l.text.toList
    String.join ((Segment.ofText text l.highlights).map (Segment.render text))
  else l.text

/-- The fields of a line in braces. -/
def fieldList (l : Line) : String :=
  "\x7b" ++ ", ".intercalate (l.fields.entries.map fun e => e.1 ++ "=" ++ e.2) ++ "\x7d"

/-- A line with its number and its fields. -/
def line (o : Options) (l : Line) : String :=
  (if o.lineNumbers then Style.dimmed.paintIf o.color s!"L{l.number}:" ++ " " else "") ++
    body o l ++
    (if o.showFields && !l.fields.isEmpty then "  " ++ Style.cyan.paintIf o.color (fieldList l)
      else "")

/-- What stands before each section. -/
def separator (o : Options) : String := Style.dimmed.paintIf o.color "---" ++ "\n"

/-- The lines that are shown. -/
def shown (all : Bool) (log : Log) : Log := log.filter fun l => all || l.visible

/-- A line after others. -/
def laterLine (o : Options) (l : Line) : String :=
  (if l.beginSection && o.sectionSeparator then separator o else "") ++ line o l ++ "\n"

/-- A log. -/
def log (o : Options) (log : Log) : String :=
  match shown o.showHidden log with
  | [] => ""
  | first :: rest => String.join ((line o first ++ "\n") :: rest.map (laterLine o))

/-- A log as JSON. -/
def json (all : Bool) (log : Log) : String := Json.list 0 ((shown all log).map (Json.line 1))

/-- How many lines of a log are visible. -/
def summary (color : Bool) (log : Log) : String :=
  let visible := Style.boldWhite.paintIf color (toString log.visibleCount)
  s!"{visible} of {log.length} lines visible\n"

/-- A snapshot. -/
def snapshot (color : Bool) (s : Snapshot) : String :=
  let id := Style.yellow.paintIf color (toString s.id)
  let time := s.time.format "%Y-%m-%d %H:%M:%S"
  let label := Style.cyan.paintIf color s.label
  s!"ID: {id}\n  Time: {time}\n  Script: {label}\n  Lines before: {s.size}\n\n"

/-- A history. -/
def history (color : Bool) (h : History) : String :=
  if h.snapshots.isEmpty then "No undo history.\n"
  else
    Style.boldWhite.paintIf color "Undo History:" ++ "\n\n" ++
      String.join (h.snapshots.reverse.map (snapshot color)) ++
      s!"{h.total} of {h.budget} records used\n"

end LogSift.Display
