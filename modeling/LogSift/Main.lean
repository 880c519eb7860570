import LogSift.CommandLine
import Std.Time.DateTime.Timestamp

/-!
# The program

The outer layer looks at the files that a script may want, lets the command line decide what is to
be done, and does it. Times are those of the zone whose offset is zero.
-/

namespace LogSift.Main

/-! ## Looking at files -/

/-- Notes what is at a location, with the bytes of a file if they are wanted. -/
def observe (bytes : Bool) (files : Files) (l : Location) : IO Files := do
  let path := (← IO.currentDir) / l.toText
  let some found ← (some <$> path.metadata) <|> pure none | return files
  let created := found.modified.sec.toNat * 1000000000 + found.modified.nsec.toNat
  match found.type with
  | .dir => return files.note ⟨l, created, .directory⟩
  | .file =>
    let content ←
      if bytes then
        try pure (.ok (← IO.FS.readBinFile path).toList)
        catch fault => pure (.error ⟨.permissionDenied, toString fault⟩)
      else pure (.ok [])
    return files.note ⟨l, created, .file content⟩
  | _ => return files

/-- The names in a directory. -/
def namesIn (l : Location) : IO (List String) := do
  let path := (← IO.currentDir) / l.toText
  let entries ← path.readDir <|> pure #[]
  return entries.toList.map (·.fileName)

/-- Notes everything below a directory. -/
partial def observeBelow (files : Files) (l : Location) : IO Files := do
  (← namesIn l).foldlM
    (fun files name => do
      let files ← observe false files (l.enter name)
      if files.isDirectory (l.enter name) then observeBelow files (l.enter name) else return files)
    files

/-- Notes what a pattern for file names may lead to. -/
def observeAlong (files : Files) (l : Location) : List Glob.Component → IO Files
  | [] => return files
  | .deep :: _ => observeBelow files l
  | .name name :: rest => do
    observeAlong (← observe false files (l.enter name)) (l.enter name) rest
  | .wild tokens :: rest => do
    let names := (← namesIn l).filter fun name => Glob.matchesText tokens name.toList
    (names ++ Glob.specials tokens).foldlM
      (fun files name => do
        observeAlong (← observe false files (l.enter name)) (l.enter name) rest)
      files

/-- Notes the files that a pattern leads to, with their bytes. -/
def observePattern (files : Files) (pattern : String) : IO Files := do
  match Glob.read pattern with
  | .error _ => return files
  | .ok g =>
    let files ← observeAlong files (g.start files).location g.components
    (g.files files).foldlM (fun files place => observe true files place.location) files

/-- Notes the files that a script loads. -/
def observeScript (files : Files) (script : String) : IO Files :=
  (Script.filePatterns script).foldlM observePattern files

/-- Notes what is along a path, and the files that it loads if it is a script. -/
def observePath (files : Files) (path : String) : IO Files := do
  let start := if path.startsWith "/" then Location.root else files.here
  let (files, l) ← (Path.names path).foldlM
    (fun (files, l) name => do return (← observe true files (l.enter name), l.enter name))
    (files, start)
  match files.readText l with
  | .ok script => observeScript files script
  | .error _ => return files

/-! ## Doing -/

/-- Does one thing to the world outside. -/
def perform (e : Effect) : IO Unit := do
  let here ← IO.currentDir
  match e with
  | .print text => IO.print text; (← IO.getStdout).flush
  | .complain text => IO.eprint text
  | .makeDirectory l => IO.FS.createDirAll (here / l.toText)
  | .write l text => IO.FS.writeFile (here / l.toText) text
  | .append l text => (← IO.FS.Handle.mk (here / l.toText) .append).putStr text
  | .pause seconds => IO.sleep (.ofNat (1000 * seconds))

/-- Does all that a console has collected. -/
def performAll (c : Console) : IO Console := do
  c.effects.reverse.forM perform
  return c.flush

/-- The console with the present time. -/
def refresh (c : Console) : IO Console := do
  let time ← Std.Time.Timestamp.now
  let now : Moment := ⟨time.val.second.val.toNat, time.val.nano.val.toNat⟩
  return { c with environment := { c.environment with now } }

/-- Goes on to the end. -/
partial def proceed (c : Console) (stage : Stage) : IO UInt32 := do
  let c ← refresh (← performAll c)
  match stage with
  | .finished code => return code.toUInt32
  | .prompting d =>
    let line ← (← IO.getStdin).getLine
    if line.isEmpty then
      let (c, _) := CommandLine.endInput c d
      proceed c (.finished 0)
    else
      let files ← observeScript c.files line
      let (c, stage) := CommandLine.take { c with files } d line
      proceed c stage

/-- A number that chance has chosen. -/
def chooseSeed : IO Nat := do
  return (← IO.getRandomBytes 8).toList.foldl (fun n b => n * 256 + b.toNat) 0

/-- The console before anything is done, with what arguments may want of the files. -/
def prepare (args : List String) : IO Console := do
  let here := Path.resolve Location.root (← IO.currentDir).toString
  let home := Path.resolve here ((← IO.getEnv "HOME").getD ".")
  let color := (← (← IO.getStdout).isTty) && (← IO.getEnv "NO_COLOR").isNone
  let settings := home.enter ".logscript"
  let files ← [settings, settings.enter "config.toml", settings.enter "logscript.log"].foldlM
    (observe true) (Files.empty here)
  let files ← args.foldlM (fun files arg => do observePath (← observeScript files arg) arg) files
  refresh (Console.start ⟨home, ⟨0, 0⟩, ← chooseSeed, color⟩ files)

end LogSift.Main

/-- Does what the arguments ask for. -/
def main (args : List String) : IO UInt32 := do
  let (c, stage) := LogSift.CommandLine.start (← LogSift.Main.prepare args) args
  LogSift.Main.proceed c stage
