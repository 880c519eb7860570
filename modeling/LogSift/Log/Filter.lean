import LogSift.Log.Basic

/-!
# Filters

A filter looks for a pattern in every line, highlights what it finds, and keeps the named groups
as fields. What else a match does is the filter's kind: it decides which lines are shown and
which count as matched. The start of a section is not hidden by a filter that removes.
-/

namespace LogSift

/-- What a match does to a line. -/
inductive FilterKind
  /-- Lines without a match are hidden. -/
  | required
  /-- Lines with a match are shown. -/
  | add
  /-- Lines with a match are hidden. -/
  | remove
  /-- Lines are only highlighted. -/
  | highlight
deriving DecidableEq, Repr

namespace FilterKind

/-- Whether a line is shown and counts as matched after a filter. -/
def settle (kind : FilterKind) (found : Bool) (l : Line) : Line :=
  match kind with
  | required => { l with visible := l.visible && found, matched := l.matched || found }
  | add => { l with visible := l.visible || found, matched := l.matched || found }
  | remove =>
    if l.beginSection then l
    else { l with visible := l.visible && !found, matched := l.matched && !found }
  | highlight => { l with matched := l.matched || found }

end FilterKind

namespace Line

/-- Highlights the matches of a pattern, and keeps its named groups. -/
def mark (p : Pattern) (color : Color) (l : Line) : Line :=
  let marked := l.highlightSpans (p.spans l.text.toList) color
  (l.captures p).foldl (fun acc k => acc.mergeFields k.entries) marked

/-- Does a filter select the line? -/
def isFound (pattern : Option Pattern) (address : Option Address) (l : Line) : Bool :=
  address.all (·.inRange l) && pattern.all fun p => !(p.spans l.text.toList).isEmpty

/-- The line with the marks of a filter. Without a pattern, all of a selected line is
marked. -/
def marked (pattern : Option Pattern) (color : Color) (address : Option Address) (l : Line) :
    Line :=
  if address.all (·.inRange l) then
    match pattern with
    | some p => l.mark p color
    | none => l.highlightAll color
  else l

/-- The line after a filter. -/
def filtered (pattern : Option Pattern) (kind : FilterKind) (color : Color)
    (address : Option Address) (l : Line) : Line :=
  kind.settle (l.isFound pattern address) (l.marked pattern color address)

end Line

namespace Log

/-- Filters every line, and counts the lines selected. The pattern of an address goes before
the filter's own. -/
def filterLines (pattern : Option Pattern) (kind : FilterKind) (color : Color)
    (address : Option Address) (log : Log) : Nat × Log :=
  let pattern := (address.bind (·.pattern)).or pattern
  (log.countP (Line.isFound pattern address), log.map (Line.filtered pattern kind color address))

/-- Hides the lines that no filter has matched, and counts those it hides. -/
def hideUnmatched (log : Log) : Nat × Log :=
  updateAll (fun l => if l.visible && !l.matched then some { l with visible := false } else none)
    log

end Log

end LogSift
