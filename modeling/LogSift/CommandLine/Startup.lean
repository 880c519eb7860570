import LogSift.CommandLine.Console
import LogSift.Config
import LogSift.Session

/-!
# Starting up

Before scripts are run the configuration is loaded and checked, and the file for records is opened
if they are wanted. What goes wrong is told by a failure, from the outermost to the innermost
cause.
-/

namespace LogSift

/-- Something that may fail, and the console afterwards in either case. -/
abbrev Attempt (α : Type) := Except (List String) α × Console

namespace Startup

/-- Where the configuration and the records are. -/
def directory (c : Console) : Location := c.environment.home.enter ".logscript"

/-- Where the configuration is. -/
def configLocation (c : Console) : Location := (directory c).enter "config.toml"

/-- Where records are written. -/
def recordLocation (c : Console) : Location := (directory c).enter "logscript.log"

/-- Sees to it that there is the directory for the configuration. -/
def ensureDirectory (c : Console) : Attempt Unit :=
  let l := directory c
  if c.files.isDirectory l then (.ok (), c)
  else if c.files.isFile l then
    (.error [Advice.noDirectory l.toText ⟨.other, "File exists (os error 17)"⟩], c)
  else (.ok (), c.makeDirectory l)

/-- The text of the file with the configuration, if there is one. -/
def configText (c : Console) : Except (List String) (Option String) :=
  let l := configLocation c
  if c.files.isThere l then
    match c.files.readText l with
    | .ok text => .ok (some text)
    | .error fault => .error [s!"Failed to read config file: {l.toText}", fault.text]
  else .ok none

/-- Loads the configuration. -/
def loadConfig (c : Console) : Attempt Config :=
  match ensureDirectory c with
  | (.error messages, c) => (.error messages, c)
  | (.ok (), c) =>
    match configText c with
    | .error messages => (.error messages, c)
    | .ok document =>
      match Config.load document with
      | (config, none) => (.ok config, c)
      | (config, some text) => (.ok config, c.write (configLocation c) text)

/-- Opens the file for records, and tells where it is. -/
def openRecords (c : Console) : Console :=
  let l := recordLocation c
  let c := c.complain s!"Debug log: {l.toText}\n"
  { c.append l "" with records := some l }

/-- Loads and checks the configuration, and opens the file for records if they are wanted. -/
def prepare (debug : Bool) (c : Console) : Attempt Config :=
  match loadConfig c with
  | (.error messages, c) => (.error messages, c)
  | (.ok config, c) =>
    match config.check with
    | .error fault =>
      (.error ("Invalid configuration in ~/.logscript/config.toml" :: fault.messages), c)
    | .ok () => (.ok config, if debug || config.debug then openRecords c else c)

/-- The session that a configuration starts with. -/
def session (config : Config) : Except (List String) Session :=
  match config.settings with
  | .ok settings => .ok (Session.start settings config.engine.undoBudget)
  | .error fault => .error (config.colorMessages fault)

/-- The text of a script. -/
def readScript (files : Files) (path : String) : Except (List String) String :=
  match files.locate path with
  | .error fault => .error [Advice.unreadable path fault]
  | .ok l => (files.readText l).mapError fun fault => [Advice.unreadable path fault]

end Startup

end LogSift
