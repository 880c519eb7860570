import LogSift.CommandLine.Arguments
import LogSift.CommandLine.Prompt
import LogSift.CommandLine.Startup
import LogSift.Script.Registry

/-!
# The command line

The program runs scripts and shows the log, or reads scripts from a prompt, lists the directives, or
shows the configuration. `CommandLine.start` does all that it can without input; at the prompt,
`CommandLine.take` takes one line, and `CommandLine.endInput` its end.
-/

namespace LogSift

/-- A dialogue at the prompt. -/
structure Dialogue where
  session : Session
  /-- The directives that have not been run, the last one first. -/
  buffer : List String
  options : Display.Options

/-- How far the program has come. -/
inductive Stage
  | finished (code : Nat)
  | prompting (d : Dialogue)

namespace CommandLine

/-- Ends with a failure. -/
def fail (c : Console) (messages : List String) : Console × Stage :=
  (c.complain (Console.failureText messages), .finished 1)

/-! ## Running scripts -/

/-- What a script finds outside. -/
def world (c : Console) : World :=
  ⟨c.files, c.environment.now, c.environment.seed, none⟩

/-- Runs a script of a session and passes the reports on. -/
def runScript (color : Bool) (script : String) (c : Console) (s : Session) :
    Console × Outcome × Session :=
  let (o, s) := s.run (world c) script
  (c.reportAll color o.reports, o, s)

/-- The script of some files and expressions. -/
def assemble (files : Files) (scripts expressions : List String) :
    Except (List String) String := do
  let texts ← scripts.mapM (Startup.readScript files)
  return "\n".intercalate (texts ++ expressions)

/-- How a log is shown after scripts have been run. -/
def showLog (json all : Bool) (options : Display.Options) (log : Log) : String :=
  if json then Display.json all log ++ "\n" else Display.log options log

/-- Runs scripts in a session that starts with the configuration. -/
def runScripts (scripts expressions : List String) (debug color : Bool) (c : Console) :
    Attempt (Config × Outcome × Session) :=
  let (prepared, c) := Startup.prepare debug c
  let ready : Except (List String) (Config × String × Session) := do
    let config ← prepared
    let script ← assemble c.files scripts expressions
    return (config, script, ← Startup.session config)
  match ready with
  | .error messages => (.error messages, c)
  | .ok (config, script, session) =>
    let (c, o, session) := runScript color script c session
    (.ok (config, o, session), c)

/-- Runs scripts and shows the log. -/
def run (scripts expressions : List String) (all json fields debug noColor : Bool) (c : Console) :
    Console × Stage :=
  if scripts.isEmpty && expressions.isEmpty then
    fail c ["Nothing to run. Usage: logscript run SCRIPT... or logscript run -e DIRECTIVE"]
  else
    let color := c.environment.color && !noColor
    match runScripts scripts expressions debug color c with
    | (.error messages, c) => fail c messages
    | (.ok (config, o, session), c) =>
      let options := config.displayOptions color
      let options :=
        { options with showHidden := options.showHidden || all, showFields := fields }
      let c := c.print (showLog json all options session.workspace.log)
      if o.success then (c, .finished 0) else fail c ["Script did not complete"]

/-! ## The prompt -/

/-- What is printed before a line is typed. -/
def promptText (d : Dialogue) : String := if d.buffer.isEmpty then "> " else ". "

/-- Waits for the next line. -/
def await (c : Console) (d : Dialogue) : Console × Stage :=
  (c.print (promptText d), .prompting d)

/-- Runs the directives that have been typed. -/
def runBuffer (c : Console) (d : Dialogue) : Console × Dialogue :=
  if d.buffer.isEmpty then (c, d)
  else
    let script := "\n".intercalate d.buffer.reverse
    let (c, _, session) := runScript d.options.color script c d.session
    (c, { d with session, buffer := [] })

/-- Takes the last script back. -/
def undo (c : Console) (d : Dialogue) : Console × Dialogue :=
  match d.session.undo? with
  | none => (c.print "Nothing to undo.\n", d)
  | some (snapshot, session) =>
    let c := c.report d.options.color snapshot.undone
    (c.print s!"Undid {snapshot.label} ({session.workspace.log.length} lines)\n",
      { d with session })

/-- Takes a line. -/
def take (c : Console) (d : Dialogue) (line : String) : Console × Stage :=
  match Prompt.ofLine line with
  | .quit => (c, .finished 0)
  | .undo =>
    let (c, d) := undo c d
    await c d
  | .history => await (c.print (Display.history d.options.color d.session.history)) d
  | .show => await (c.print (Display.log d.options d.session.workspace.log)) d
  | .reference => await (c.print Registry.referenceText) d
  | .runBuffer =>
    let (c, d) := runBuffer c d
    await c d
  | .unknownCommand text => await (c.print s!"Unknown session command: {text}\n") d
  | .directive text => await c { d with buffer := text :: d.buffer }

/-- Takes the end of the input: what is left in the buffer is run. -/
def endInput (c : Console) (d : Dialogue) : Console × Dialogue :=
  let (c, d) := runBuffer c d
  (c.print "\n", d)

/-- Starts a dialogue, after a script has been run if there is one. -/
def prompt (script : Option String) (debug noColor : Bool) (c : Console) : Console × Stage :=
  let color := c.environment.color && !noColor
  let (prepared, c) := Startup.prepare debug c
  let ready : Except (List String) (Config × Session × Option String) := do
    let config ← prepared
    let session ← Startup.session config
    return (config, session, ← script.mapM (Startup.readScript c.files))
  match ready with
  | .error messages => fail c messages
  | .ok (config, session, text) =>
    let (c, session) := match text with
      | none => (c, session)
      | some text =>
        let (c, _, session) := runScript color text c session
        (c, session)
    let c := c.print "Enter directives; an empty line runs them. :undo :history :show :quit\n"
    await c ⟨session, [], config.displayOptions color⟩

/-! ## The other commands -/

/-- Tells where the configuration is, and what it is. -/
def showConfig (shown : Bool) (c : Console) : Console × Stage :=
  match Startup.loadConfig c with
  | (.error messages, c) => fail c messages
  | (.ok config, c) =>
    let c := c.print s!"Config file: {(Startup.configLocation c).toText}\n"
    let c := c.print s!"Debug log:   {(Startup.recordLocation c).toText}\n"
    if shown then
      let c := c.print s!"\n{config.toText}\n"
      match config.check with
      | .ok () => (c, .finished 0)
      | .error fault =>
        let warning := ": ".intercalate fault.messages
        (c.print s!"Warning: {warning}\n", .finished 0)
    else (c, .finished 0)

/-- The version of the program or of a command. -/
def versionText (command : Option String) (long : Bool) : String :=
  let name := match command with
    | none => "logscript"
    | some command => s!"logscript-{command}"
  if long then s!"{name} 0.1.0\n\nLicense: MIT\nRust Edition: 2024\n" else s!"{name} 0.1.0\n"

/-- How a command is called. -/
def usage : Option String → String
  | some "run" =>
    "Usage: logscript run [OPTIONS] [SCRIPT]...\n\nOptions:\n" ++
      "  -e, --expression <DIRECTIVE>  Directive to append to the script (repeatable)\n" ++
      "  -a, --all                     Print hidden lines too\n" ++
      "      --json                    Print lines as JSON instead of text\n" ++
      "  -f, --fields                  Print each line's extracted fields\n" ++
      "      --no-color                Disable colored output\n" ++
      "      --debug                   Write a debug log to ~/.logscript/logscript.log\n"
  | some "repl" =>
    "Usage: logscript repl [OPTIONS] [SCRIPT]\n\nOptions:\n" ++
      "      --no-color  Disable colored output\n" ++
      "      --debug     Write a debug log to ~/.logscript/logscript.log\n"
  | some "config" =>
    "Usage: logscript config [OPTIONS]\n\nOptions:\n" ++
      "      --show  Print the current configuration\n"
  | some command => s!"Usage: logscript {command}\n"
  | none =>
    "Usage: logscript <COMMAND>\n\nCommands:\n" ++
      "  run        Run scripts and print the resulting lines\n" ++
      "  repl       Interactive session with undo\n" ++
      "  reference  Print the directive reference\n" ++
      "  config     Show configuration\n"

/-- Does what a command asks for. -/
def perform (c : Console) : Command → Console × Stage
  | .run scripts expressions all json fields debug noColor =>
    run scripts expressions all json fields debug noColor c
  | .prompt script debug noColor => prompt script debug noColor c
  | .reference => (c.print Registry.referenceText, .finished 0)
  | .config shown => showConfig shown c

/-- Does what arguments ask for. -/
def start (c : Console) (args : List String) : Console × Stage :=
  match Arguments.read args with
  | .ok command => perform c command
  | .error .misuse => (c.complain (usage none), .finished 2)
  | .error (.version command long) => (c.print (versionText command long), .finished 0)
  | .error (.help command) => (c.print (usage command), .finished 0)

/-- Takes lines, as far as the program goes on. -/
def takeLines : Console × Stage → List String → Console × Stage
  | (c, .prompting d), line :: rest => takeLines (take c d line) rest
  | there, _ => there

/-- Takes lines, and the end of the input after them. -/
def takeAll (there : Console × Stage) (lines : List String) : Console × Nat :=
  match takeLines there lines with
  | (c, .finished code) => (c, code)
  | (c, .prompting d) => ((endInput c d).1, 0)

/-- Does all that arguments ask for with an input. -/
def runAll (c : Console) (args : List String) (input : String) : Console × Nat :=
  takeAll (start c args) ((Text.lines input.toList).map String.ofList)

end CommandLine

end LogSift
