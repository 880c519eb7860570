import LogSift.Log.Edit
import LogSift.Log.Filter
import LogSift.Script.Problem
import LogSift.Script.Scanner

/-!
# Stream edits

A stream edit is an address, which may be missing, and what to do with the lines it selects. The
address is a number, two numbers with a comma, or a pattern between slashes; then come a letter
and what it needs. Blanks may stand between the parts.
-/

namespace LogSift

/-- What a stream edit does with the selected lines. -/
inductive SedAction
  /-- Hides, shows or highlights them. -/
  | filter (kind : FilterKind)
  /-- Replaces matches in them, all or the first of each line. -/
  | replace (pattern : Pattern) (replacement : String) (all : Bool)
  | change (text : String)
  /-- Puts a line before each. -/
  | insert (text : String)
  /-- Puts a line after each. -/
  | append (text : String)
  | delete

namespace Sed

/-- A pattern as an argument. -/
def pattern (source : String) : Except Problem Pattern :=
  (Pattern.ofSource source).mapError .rejected

/-- The rest of the line as an argument. -/
def text (what : String) (s : Scanner) : Except Problem (String × Scanner) :=
  match s.all? with
  | some t => .ok (t, ⟨[]⟩)
  | none => .error (.missingText what)

/-- A line number. -/
def lineNumber (digits : List Char) : Except Problem Nat :=
  (Text.readNat digits).mapError (.badLineNumber (String.ofList digits))

/-- The digits at the front. -/
def digitsOf (cs : List Char) : List Char × List Char :=
  (cs.takeWhile Unicode.digit.contains, cs.dropWhile Unicode.digit.contains)

/-- The address at the front, if there is one. -/
def address (s : Scanner) : Except Problem (Option Address × Scanner) :=
  let (first, left) := digitsOf s.rest
  if first.isEmpty then
    if s.peek? = some '/' then
      match s.literalText? with
      | none => .error .unterminatedAddress
      | some (source, s) => do return (some (Address.matching (← pattern source)), s)
    else .ok (none, s)
  else
    let single : Except Problem (Option Address × Scanner) := do
      let n ← lineNumber first
      return (some (Address.lines n n), Scanner.ofRest left)
    match left with
    | ',' :: second =>
      let (last, left) := digitsOf second
      if last.isEmpty then single
      else do
        let n ← lineNumber first
        let m ← lineNumber last
        if m < n then .error (.backwardsRange (String.ofList (first ++ ',' :: last)))
        else return (some (Address.lines n m), Scanner.ofRest left)
    | _ => single

/-- A replacement after its letter. -/
def substitution (s : Scanner) : Except Problem (SedAction × Scanner) :=
  match s.literals? 2 with
  | some ([source, replacement], s) =>
    match s.all? with
    | none => do return (.replace (← pattern source) replacement false, ⟨[]⟩)
    | some "g" => do return (.replace (← pattern source) replacement true, ⟨[]⟩)
    | some flags => .error (.unknownFlags flags)
  | _ => .error .unterminatedSubstitution

/-- The action of a letter, and what is left after its arguments. -/
def actionOf (op : Char) (s : Scanner) : Except Problem (SedAction × Scanner) :=
  match op with
  | '-' => .ok (.filter .remove, s)
  | '+' => .ok (.filter .add, s)
  | '~' => .ok (.filter .highlight, s)
  | 'd' => .ok (.delete, s)
  | 's' => substitution s
  | 'c' => do
    let (t, s) ← text "replacement text" s
    return (.change t, s)
  | 'i' => do
    let (t, s) ← text "text to insert" s
    return (.insert t, s)
  | 'a' => do
    let (t, s) ← text "text to append" s
    return (.append t, s)
  | c => .error (.unknownOperation (String.singleton c))

/-- The action at the front, which takes all that is left. -/
def action (s : Scanner) : Except Problem SedAction :=
  match s.rest with
  | [] => .error .missingOperation
  | op :: rest => do
    let (a, s) ← actionOf op (Scanner.ofRest rest)
    if s.isDone then return a else .error .extraArguments

/-- The address and the action of a stream edit. -/
def setup (s : Scanner) : Except Problem (Option Address × SedAction) := do
  let (a, s) ← address s
  return (a, ← action s)

end Sed

end LogSift
