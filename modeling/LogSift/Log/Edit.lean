import LogSift.Log.Basic

/-!
# Edits of lines

Each edit works on the lines that an address selects and counts them, or the lines that it
changes. Lines that are put in are highlighted as a whole, and are not themselves looked at.
-/

namespace LogSift.Log

/-- Replaces matches by a text, all of a line or the first, and counts the lines this
changes. -/
def replace (p : Pattern) (replacement : String) (all : Bool) (address : Option Address)
    (log : Log) : Nat × Log :=
  updateAll
    (fun l => if Address.selects? address l then l.replace? p replacement all else none)
    log

/-- Replaces whole lines by a text. -/
def change (address : Option Address) (text : String) (color : Color) (log : Log) : Nat × Log :=
  updateAll (fun l => if Address.selects? address l then some (l.setText text color) else none)
    log

/-- Removes lines. -/
def delete (address : Option Address) (log : Log) : Nat × Log :=
  (log.countP (Address.selects? address),
    renumber (log.filter fun l => !Address.selects? address l))

/-- A line to be put in. -/
def newLine (text : String) (color : Color) : Line := (Line.ofText text 0).highlightAll color

/-- Puts a line before each selected line. -/
def insertBefore (address : Option Address) (text : String) (color : Color) (log : Log) :
    Nat × Log :=
  (log.countP (Address.selects? address),
    renumber (log.flatMap fun l =>
      if Address.selects? address l then [newLine text color, l] else [l]))

/-- Puts a line after each selected line. -/
def insertAfter (address : Option Address) (text : String) (color : Color) (log : Log) :
    Nat × Log :=
  (log.countP (Address.selects? address),
    renumber (log.flatMap fun l =>
      if Address.selects? address l then [l, newLine text color] else [l]))

end LogSift.Log
