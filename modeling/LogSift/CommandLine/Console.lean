import LogSift.Display
import LogSift.Script.Run

/-!
# The console

What the program does to the world outside is a list of effects. A console collects them, together
with the files as they leave them, so that what is written can be read again.
-/

namespace LogSift

/-- Something done to the world outside. -/
inductive Effect
  /-- Text on the standard output. -/
  | print (text : String)
  /-- Text on the standard error output. -/
  | complain (text : String)
  | makeDirectory (l : Location)
  | write (l : Location) (text : String)
  | append (l : Location) (text : String)
  /-- A number of seconds pass. -/
  | pause (seconds : Nat)
deriving DecidableEq, Repr

/-- Where the program runs. -/
structure Environment where
  /-- The directory of the user. -/
  home : Location
  now : Moment
  /-- A number that chance has chosen. -/
  seed : Nat
  /-- Does the output show colors? -/
  color : Bool

/-- What has been done. -/
structure Console where
  environment : Environment
  files : Files
  /-- The effects, the last one first. -/
  effects : List Effect
  /-- Where records of what is done are written, if they are. -/
  records : Option Location

namespace Console

/-- Before anything is done. -/
def start (environment : Environment) (files : Files) : Console := ⟨environment, files, [], none⟩

/-- Does something that leaves the files alone. -/
def perform (c : Console) (e : Effect) : Console := { c with effects := e :: c.effects }

/-- Prints a text. -/
def print (c : Console) (text : String) : Console := c.perform (.print text)

/-- Prints a text on the standard error output. -/
def complain (c : Console) (text : String) : Console := c.perform (.complain text)

/-- Makes a directory. -/
def makeDirectory (c : Console) (l : Location) : Console :=
  { c.perform (.makeDirectory l) with files := c.files.put l .directory }

/-- Writes a file. -/
def write (c : Console) (l : Location) (text : String) : Console :=
  { c.perform (.write l text) with files := c.files.write l (Text.Utf8.encode text) }

/-- Adds to a file. -/
def append (c : Console) (l : Location) (text : String) : Console :=
  { c.perform (.append l text) with files := c.files.append l text }

/-- Forgets the effects, which have come to pass. -/
def flush (c : Console) : Console := { c with effects := [] }

/-! ## Reports -/

/-- A record as a line. -/
def recordLine (now : Moment) (r : Record) : String :=
  let time := now.format "%Y-%m-%dT%H:%M:%S%.6fZ"
  let severity := match r.severity with
    | .info => " INFO"
    | .warning => " WARN"
  let details := String.join (r.details.map fun d => s!" {d.1}={d.2}")
  s!"{time} {severity} ThreadId(01) {r.message}{details}\n"

/-- The style of a line about the progress of a script. -/
def progressStyle (text : String) : Style :=
  let cs := text.toList
  if (Text.after? "...".toList cs).isSome then .dimmed
  else if Text.holds "FAILED".toList cs || (Text.after? "SQL ERROR".toList cs).isSome then .boldRed
  else .cyan

/-- Passes a report on. -/
def report (color : Bool) (c : Console) (r : Report) : Console :=
  match r with
  | .progress text => c.complain ((progressStyle text).paintIf color text ++ "\n")
  | .record r =>
    match c.records with
    | some l => c.append l (recordLine c.environment.now r)
    | none => c
  | .pause seconds => c.perform (.pause seconds)
  | .done (some label) log => c.complain (s!"[{label}] " ++ Display.summary color log)
  | .done none _ => c

/-- Passes reports on. -/
def reportAll (color : Bool) (c : Console) (rs : List Report) : Console :=
  rs.foldl (report color) c

/-! ## Failures -/

/-- A cause that may have several lines, the later ones as far to the right as the first. -/
def indented (first later : String) (cause : String) : String :=
  first ++ ("\n" ++ later).intercalate ((Text.parts '\n' cause.toList).map String.ofList)

/-- The causes of a failure. They are numbered if there are several. -/
def causeLines : List String → String
  | [] => ""
  | [cause] => "\n\nCaused by:\n" ++ indented "    " "    " cause
  | causes =>
    "\n\nCaused by:" ++ String.join (causes.zipIdx.map fun (cause, i) =>
      "\n" ++ indented s!"    {i}: " "       " cause)

/-- A failure and its causes. -/
def failureText (messages : List String) : String :=
  "Error: " ++ messages.headD "" ++ causeLines messages.tail ++ "\n"

end Console

end LogSift
