import LogSift.Files.Glob
import LogSift.Script.Problem
import LogSift.Script.Report
import LogSift.Script.Workspace
import LogSift.Text.Lines
import LogSift.Text.Utf8

/-!
# Loading files

A file is read up to the limit; of the lines read, those that the filters accept are kept, and
their replacements come at the end of the log. The files that a pattern leads to are loaded one
after the other, up to the first that cannot be read.
-/

namespace LogSift

/-- Every so many lines there is a report. -/
def progressInterval : Nat := 10000

/-- The lines of a file that are read. -/
def Settings.linesRead (s : Settings) (lines : List (List Char)) : List (List Char) :=
  if s.limit = 0 then lines else lines.take s.limit

/-- The texts kept of the lines read, as they were. -/
def Settings.linesKept (s : Settings) (lines : List (List Char)) : List String :=
  ((s.linesRead lines).map String.ofList).filter s.accepts

namespace Log

/-- Adds what is kept of a file's lines. -/
def loadLines (s : Settings) (lines : List (List Char)) (log : Log) : Log :=
  log.appendTexts ((s.linesKept lines).map s.applyReplacements)

end Log

namespace Load

/-- The lines of a file with some bytes. -/
def linesOf (bytes : List UInt8) : List (List Char) := Text.lines (Text.Utf8.lenient bytes)

/-- The numbers of lines at which there is a report. -/
def milestones (limit read : Nat) : List Nat :=
  ((List.range (read / progressInterval)).map fun i => (i + 1) * progressInterval).filter
    (· ≠ limit)

/-- What is reported of a file whose lines have been read. -/
def reports (path : String) (s : Settings) (lines : List (List Char)) : List Report :=
  let read := (s.linesRead lines).length
  let kept := (s.linesKept lines).length
  .progress s!"... processing {Text.grouped lines.length} lines" ::
    (milestones s.limit read).map (fun n => .progress s!"... {Text.grouped n}") ++
    (if 0 < s.limit && read = s.limit then
      [.progress s!"... reached file limit of {Text.grouped s.limit} lines"]
    else []) ++
    [.info "loaded log file"
      [("file", path), ("read", toString read), ("kept", toString kept)],
    .progress (s!"... read {Text.grouped read} lines, kept {Text.grouped kept}, " ++
      s!"discarded {Text.grouped (read - kept)}")]

/-- Loads files one after the other. The result has the reports, the log, and what stopped the
loading, if anything did. -/
def loadFiles (f : Files) (s : Settings) : List Glob.Place → Log →
    List Report × Log × Option Problem
  | [], log => ([], log, none)
  | p :: rest, log =>
    let start := Report.progress s!"Reading file {p.path}"
    match f.read p.location with
    | .error fault => ([start], log, some (.unreadable p.path fault))
    | .ok bytes =>
      let lines := linesOf bytes
      let (more, log, problem) := loadFiles f s rest (log.loadLines s lines)
      (start :: reports p.path s lines ++ more, log, problem)

/-- The files that a pattern leads to. There has to be one. -/
def find (f : Files) (pattern : String) : Except Problem (List Glob.Place) :=
  match Glob.read pattern with
  | .error fault => .error (.badFilePattern pattern fault)
  | .ok g =>
    match g.files f with
    | [] => .error (.noFiles pattern f.here)
    | places => .ok places

/-- Loads the files that a pattern leads to. -/
def load (f : Files) (s : Settings) (pattern : String) (log : Log) :
    List Report × Log × Option Problem :=
  match find f pattern with
  | .error problem => ([], log, some problem)
  | .ok places => loadFiles f s places log

end Load

end LogSift
