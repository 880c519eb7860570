import LogSift.Script.Registry
import LogSift.Text.Lines

/-!
# Reading a script

A script is read line by line, and each line on its own: it is a directive, or blank, or a
comment. The first line that cannot be read fails the script.
-/

namespace LogSift

/-- A line of a script that cannot be read. -/
structure ScriptFault where
  /-- The number of the line, from one on. -/
  number : Nat
  /-- Its text, trimmed. -/
  text : String
  problem : Problem
deriving DecidableEq, Repr

/-- The sentence for a fault. -/
def ScriptFault.message (f : ScriptFault) : String :=
  let place := s!"FAILED TO PARSE DIRECTIVE: line {f.number}: {f.text}"
  match f.problem with
  | .unknownDirective _ => place ++ " " ++ f.problem.message
  | _ => place ++ ": " ++ f.problem.message

namespace Script

/-- The directive of a line; blank lines and comments have none. -/
def parseLine (line : String) : Except Problem (Option Directive) :=
  match Scanner.ofLine line with
  | none => .ok none
  | some (op, s) =>
    match Registry.find? op with
    | none => .error (.unknownDirective op)
    | some entry => do return some (← entry.setup s)

/-- The directives of lines that are numbered from a number on. -/
def parseFrom (number : Nat) : List (List Char) → Except ScriptFault (List Directive)
  | [] => .ok []
  | line :: rest =>
    match parseLine (String.ofList line) with
    | .error problem => .error ⟨number, String.ofList (Text.trim line), problem⟩
    | .ok none => parseFrom (number + 1) rest
    | .ok (some d) => do return d :: (← parseFrom (number + 1) rest)

/-- The directives of a script. -/
def parse (script : String) : Except ScriptFault (List Directive) :=
  parseFrom 1 (Text.lines script.toList)

/-- The patterns for file names in a script, as far as its lines can be read. -/
def filePatterns (script : String) : List String :=
  (Text.lines script.toList).filterMap fun line =>
    match parseLine (String.ofList line) with
    | .ok (some (.load pattern)) => some pattern
    | _ => none

end Script

end LogSift
