import LogSift.Files

/-!
# What to do about files

The texts for what can go wrong with files say what happened and how it may be mended.
-/

namespace LogSift

/-- Lines of a text. -/
def stanza (lines : List String) : String := "\n".intercalate lines

namespace Advice

/-- No file is at a path. -/
def notFound (path context : String) : String :=
  stanza [
    s!"File not found: '{path}'",
    "",
    s!"Context: {context}",
    "",
    "Possible fixes:",
    "1. Check the file path is correct",
    "2. Use an absolute path if the relative path is ambiguous",
    s!"3. Check if the file was rotated or moved: ls -la '{Path.parentText path}'"]

/-- A file cannot be read. -/
def unreadable (path : String) (fault : FileFault) : String :=
  match fault.kind with
  | .permissionDenied =>
    stanza [
      s!"Permission denied when reading '{path}'",
      "",
      "Possible fixes:",
      s!"1. Check file permissions: ls -l '{path}'",
      s!"2. Grant read access with: chmod u+r '{path}'",
      "3. Copy the log somewhere readable and load the copy"]
  | .notFound => notFound path "reading log file"
  | .other =>
    stanza [s!"Failed to read log file: '{path}'", "", s!"Underlying error: {fault.text}"]

/-- No file matches a pattern. -/
def noMatch (pattern : String) (here : Location) : String :=
  stanza [
    s!"No readable files match '{pattern}'",
    "",
    "Possible fixes:",
    s!"1. Check the pattern with: ls {pattern}",
    s!"2. Patterns are relative to the current directory: {here.toText}",
    "3. The pattern is the rest of the line, so leave out quotes"]

/-- A directory cannot be made. -/
def noDirectory (path : String) (fault : FileFault) : String :=
  let heading := s!"Failed to create directory: '{path}'"
  match fault.kind with
  | .permissionDenied =>
    stanza [
      heading,
      "",
      "Cause: Permission denied",
      "",
      "Possible fixes:",
      s!"1. Ensure parent directory exists: ls -la '{Path.parentText path}'",
      "2. Check write permissions on parent directory",
      s!"3. Try creating manually: mkdir -p '{path}'"]
  | _ => stanza [heading, "", s!"Underlying error: {fault.text}"]

end Advice

end LogSift
