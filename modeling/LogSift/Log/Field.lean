import LogSift.Log.Basic

/-!
# Fields of lines

Fields are extracted by a pattern with groups `key` and `value`, completed from line to line, and
sorted by. In a comparison a line that lacks a field comes after one that has it, and the
numbers of the lines decide where the fields do not.
-/

namespace LogSift

namespace Line

/-- The pairs of a key and a value that a pattern finds, one for each match in which both groups
took part. -/
def keyedValues (p : Pattern) (l : Line) : List (String × String) :=
  (l.captures p).filterMap fun k =>
    match k.find? "key", k.find? "value" with
    | some key, some value => some (key, value)
    | _, _ => none

/-- The order of two lines by a list of fields. -/
def compareBy : List String → Line → Line → Ordering
  | [], a, b => compare a.number b.number
  | field :: rest, a, b =>
    match a.field? field, b.field? field with
    | some x, some y => if x = y then compareBy rest a b else compare x y
    | some _, none => .lt
    | none, some _ => .gt
    | none, none => compareBy rest a b

end Line

namespace Log

/-- Keeps the keys and values that a pattern finds as fields, and counts the lines where it finds
any. -/
def parseFields (p : Pattern) (log : Log) : Nat × Log :=
  updateAll
    (fun l =>
      let pairs := l.keyedValues p
      if pairs.isEmpty then none else some (l.mergeFields pairs))
    log

/-- Notes what a line at some place of the log tells about one field by another, if it has both and
no line before it has told the same. -/
def note (add known : String) (noted : Keyed (Nat × String)) (told : Line × Nat) :
    Keyed (Nat × String) :=
  match told.1.field? known, told.1.field? add with
  | some key, some value =>
    if (noted.find? key).any (·.1 ≤ told.2) then noted else noted.insert key (told.2, value)
  | _, _ => noted

/-- What lines tell about one field by another, each with the place it was told at. The lines are
asked in the order of the schedule. -/
def learn (add known : String) (schedule : List (Line × Nat)) : Keyed (Nat × String) :=
  schedule.foldl (note add known) Keyed.empty

/-- The line with a missing field filled in, if what has been learned tells its value. -/
def fill? (add known : String) (learned : Keyed (Nat × String)) (l : Line) : Option Line :=
  if l.hasField add then none
  else ((l.field? known).bind learned.find?).map fun told => l.setField add told.2

/-- Fills in the field `add` on lines that lack it, from lines with the same value of the field
`known`, and counts the lines filled. The lines are asked side by side, and so in any order: a
schedule is the lines with their places, rearranged. -/
def addFieldBy (schedule : List (Line × Nat)) (add known : String) (log : Log) : Nat × Log :=
  updateAll (fill? add known (learn add known schedule)) log

/-- Fills in a field, the lines being asked one after the other. -/
def addField (add known : String) (log : Log) : Nat × Log := addFieldBy log.zipIdx add known log

/-- Sorts the lines by a list of fields. -/
def sortByFields (fields : List String) (log : Log) : Log :=
  log.mergeSort fun a b => Line.compareBy fields a b != .gt

end Log

end LogSift
