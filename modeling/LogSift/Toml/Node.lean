/-!
# TOML values

A document is a table of values. How a table came about decides what may still be added to it.
-/

namespace LogSift.Toml

/-- How a table came about. -/
inductive Origin
  /-- By a header of its own. -/
  | header
  /-- By a header for something within it. -/
  | implied
  /-- By a key with dots. -/
  | dotted
  /-- As a value in braces, to which nothing may be added. -/
  | inlined
deriving DecidableEq, Repr

/-- A value. -/
inductive Node
  | text (value : String)
  | integer (value : Int)
  | float
  | boolean (value : Bool)
  | date
  | array (items : List Node)
  | table (origin : Origin) (entries : List (String × Node))
  /-- The tables with one header in double brackets, the last one first. -/
  | tables (items : List (List (String × Node)))

/-- The values of a table under their keys. -/
abbrev Entries := List (String × Node)

namespace Entries

/-- The value under a key. -/
def value? (es : Entries) (key : String) : Option Node := (List.find? (·.1 = key) es).map (·.2)

/-- The entries without a key. -/
def erase (es : Entries) (key : String) : Entries := es.filter (·.1 ≠ key)

/-- The entries with a value under a key. -/
def set (es : Entries) (key : String) (node : Node) : Entries :=
  if es.any (·.1 = key) then es.map fun e => if e.1 = key then (key, node) else e
  else es ++ [(key, node)]

/-- Applies a change to the table at the end of a path, which is told how the table came about.
Tables on the way that are missing are made; by a key with dots they can be reached only if no
header made them. -/
def modify (byKey : Bool) (change : Origin → Entries → Option Entries) :
    List String → Origin → Entries → Option Entries
  | [], origin, es => change origin es
  | key :: path, _, es =>
    match es.value? key with
    | none =>
      let origin := if byKey then Origin.dotted else .implied
      (modify byKey change path origin []).map fun inner => es.set key (.table origin inner)
    | some (.table origin inner) =>
      if origin = .inlined || (byKey && origin = .header) then none
      else (modify byKey change path origin inner).map fun inner => es.set key (.table origin inner)
    | some (.tables (last :: others)) =>
      (modify byKey change path .header last).map fun last => es.set key (.tables (last :: others))
    | some _ => none

/-- Puts a value under a key, which is not taken. A key after dots belongs to a table that such
keys made, and a key without dots to one that they did not. -/
def assign (path : List String) (key : String) (node : Node) (self : Origin) (es : Entries) :
    Option Entries :=
  modify true
    (fun origin es =>
      if (origin == .dotted) == path.isEmpty || (es.value? key).isSome then none
      else some (es.set key node))
    path self es

end Entries

end LogSift.Toml
