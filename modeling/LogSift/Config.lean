import LogSift.Clock.DateFormat
import LogSift.Display
import LogSift.Script.Problem
import LogSift.Toml.Document

/-!
# Configuration

The configuration is a TOML document of three tables. What it does not say has a default, and what
else it says does not matter; a document of another shape is no configuration. The values
themselves are checked apart, by `Config.check`.
-/

namespace LogSift

/-- How scripts are run. -/
structure EngineConfig where
  undoBudget : Nat
  dateFormat : String
  /-- The color of highlights as long as no script chooses one. -/
  color : String
  /-- The number of threads to work with; zero is as many as there are processors. -/
  threads : Nat
deriving DecidableEq, Repr

/-- How logs are shown. -/
structure DisplayConfig where
  lineNumbers : Bool
  showHidden : Bool
  sectionSeparator : Bool
deriving DecidableEq, Repr

/-- The configuration. -/
structure Config where
  engine : EngineConfig
  display : DisplayConfig
  /-- Is there a log of what is done? -/
  debug : Bool
deriving DecidableEq, Repr

namespace Config

/-- The configuration by default. -/
def initial : Config :=
  { engine := ⟨History.initialBudget, Settings.defaultDateFormat, "green", 0⟩
    display := ⟨true, false, true⟩
    debug := false }

/-! ## Reading -/

open Toml (Node Entries)

/-- The value of a section under a key, if it is a table, or at the place of the key, if it is an
array. A date counts as a table of other keys. -/
def member? (section? : Option Node) (place : Nat) (key : String) : Option (Option Node) :=
  match section? with
  | none | some .date => some none
  | some (.table _ es) => some (Entries.value? es key)
  | some (.array items) => some items[place]?
  | some (.tables items) => some (items.reverse[place]?.map (.table .header))
  | some _ => none

/-- A number from zero on, or the default. -/
def natural (default : Nat) : Option Node → Option Nat
  | none => some default
  | some (.integer (.ofNat n)) => some n
  | some _ => none

/-- A text, or the default. -/
def text (default : String) : Option Node → Option String
  | none => some default
  | some (.text s) => some s
  | some _ => none

/-- A truth value, or the default. -/
def flag (default : Bool) : Option Node → Option Bool
  | none => some default
  | some (.boolean b) => some b
  | some _ => none

/-- The configuration that a table of sections stands for. -/
def ofEntries? (es : Entries) : Option Config := do
  let start := Config.initial
  let engine := es.value? "engine"
  let display := es.value? "display"
  let logging := es.value? "logging"
  let undoBudget ← natural start.engine.undoBudget (← member? engine 0 "undo_budget")
  let dateFormat ← text start.engine.dateFormat (← member? engine 1 "date_format")
  let color ← text start.engine.color (← member? engine 2 "color")
  let threads ← natural start.engine.threads (← member? engine 3 "threads")
  let lineNumbers ← flag start.display.lineNumbers (← member? display 0 "line_numbers")
  let showHidden ← flag start.display.showHidden (← member? display 1 "show_hidden")
  let sectionSeparator ←
    flag start.display.sectionSeparator (← member? display 2 "section_separator")
  let debug ← flag start.debug (← member? logging 0 "debug")
  return ⟨⟨undoBudget, dateFormat, color, threads⟩, ⟨lineNumbers, showHidden, sectionSeparator⟩,
    debug⟩

/-- The configuration that a document stands for. -/
def ofText? (document : String) : Option Config := (Toml.read? document).bind ofEntries?

/-! ## Writing -/

/-- A table with its name. -/
def tableText (name : String) (entries : List (String × String)) : String :=
  s!"[{name}]\n" ++ String.join (entries.map fun e => s!"{e.1} = {e.2}\n")

/-- A configuration as a document. -/
def toText (c : Config) : String :=
  "\n".intercalate [
    tableText "engine" [
      ("undo_budget", toString c.engine.undoBudget),
      ("date_format", Toml.quoted c.engine.dateFormat),
      ("color", Toml.quoted c.engine.color),
      ("threads", toString c.engine.threads)],
    tableText "display" [
      ("line_numbers", toString c.display.lineNumbers),
      ("show_hidden", toString c.display.showHidden),
      ("section_separator", toString c.display.sectionSeparator)],
    tableText "logging" [("debug", toString c.debug)]]

/-- The document that is written where there is none. It explains itself. -/
def initialText : String := "\n".intercalate [
  "# logscript Configuration File",
  "#",
  "# This file controls default behavior for logscript. Values set here can be",
  "# overridden by command-line flags.",
  "#",
  "# For more information, run: logscript config --help",
  "",
  "[engine]",
  "# Maximum number of records kept across all undo states (default: 5000000)",
  "# The most recent undo state is always kept, even if it alone is larger.",
  "undo_budget = 5000000",
  "",
  "# strftime format that 'today' and 'requireToday' look for (default: %m\\.%d\\.%y)",
  "# The result is used as a regular expression, so escape dots.",
  "date_format = '%m\\.%d\\.%y'",
  "",
  "# Highlight color used until a script sets one with ':' (default: green)",
  "# Accepts names (red, lightBlue, ...) or hex (#ff8800).",
  "color = \"green\"",
  "",
  "# Worker threads for per-line work (default: 0, meaning one per CPU)",
  "threads = 0",
  "",
  "[display]",
  "# Prefix each printed line with its line number (default: true)",
  "line_numbers = true",
  "",
  "# Also print hidden lines, dimmed (default: false)",
  "show_hidden = false",
  "",
  "# Print a separator before each section start (default: true)",
  "section_separator = true",
  "",
  "[logging]",
  "# Write a debug log to ~/.logscript/logscript.log (default: false)",
  "debug = false",
  ""]

/-! ## Checking -/

/-- What can be wrong with a value. -/
inductive Fault
  | noBudget
  | badDateFormat (format : String)
  | badColor (color : String)
  | tooManyThreads (threads : Nat)
deriving DecidableEq, Repr

/-- The sentences for a fault, the cause last. -/
def Fault.messages : Fault → List String
  | noBudget => ["Invalid undo_budget: 0 (must be positive)"]
  | badDateFormat format =>
    [s!"Invalid date_format: {format}", (Problem.badDateFormat format).message]
  | badColor color => [s!"Invalid color: {color}"]
  | tooManyThreads threads => [s!"Invalid threads: {threads} (max 1024)"]

/-- Checks the values; the first fault counts. -/
def check (c : Config) : Except Fault Unit :=
  if c.engine.undoBudget = 0 then .error .noBudget
  else if !DateFormat.isValid c.engine.dateFormat then
    .error (.badDateFormat c.engine.dateFormat)
  else if (Color.ofText c.engine.color).toOption.isNone then .error (.badColor c.engine.color)
  else if 1024 < c.engine.threads then .error (.tooManyThreads c.engine.threads)
  else .ok ()

/-- The settings that a session starts with, or the fault of the color with the text of it. -/
def settings (c : Config) : Except Color.Fault Settings := do
  let color ← Color.ofText c.engine.color
  return { Settings.initial with color, dateFormat := c.engine.dateFormat }

/-- What a file with a configuration leads to: the configuration, and what is to be written to the
file. A file that is missing or holds no configuration is written anew. -/
def load (document : Option String) : Config × Option String :=
  match document.bind ofText? with
  | some c => (c, none)
  | none => (initial, some initialText)

/-- The sentences for a color that a session cannot start with. -/
def colorMessages (c : Config) (f : Color.Fault) : List String :=
  [s!"Invalid color in config: {c.engine.color}", f.message]

/-- How logs are shown. -/
def displayOptions (c : Config) (color : Bool) : Display.Options :=
  ⟨color, c.display.lineNumbers, c.display.showHidden, c.display.sectionSeparator, false⟩

end Config

end LogSift
