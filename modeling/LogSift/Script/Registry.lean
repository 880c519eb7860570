import LogSift.Clock.DateFormat
import LogSift.Script.Directive

/-!
# The directives by name

The registry lists every directive: its operator, what its arguments look like, under which
heading the reference shows it, what it does, and how its arguments are read.
-/

namespace LogSift

/-- The headings of the reference. -/
inductive Category
  | adding | removing | adjusting | filter | sections | analysis | misc
deriving DecidableEq, Repr

namespace Category

/-- The categories in the order of the reference. -/
def all : List Category := [adding, removing, adjusting, filter, sections, analysis, misc]

/-- The heading of a category. -/
def heading : Category → String
  | adding => "*** ADDING LOG LINES ***"
  | removing => "*** REMOVING LOG LINES ***"
  | adjusting => "*** ADJUSTING LOG LINES ***"
  | filter => "*** FILTERING/HIGHLIGHTING LOG LINES ***"
  | sections => "*** SECTIONS ***"
  | analysis => "*** ANALYSIS ***"
  | misc => "*** MISC ***"

end Category

namespace Arguments

/-- Nothing may be left. -/
def done {α : Type} (a : α) (s : Scanner) : Except Problem α :=
  if s.isDone then .ok a else .error .extraArguments

/-- The next word. -/
def word (what : String) (s : Scanner) : Except Problem (String × Scanner) :=
  match s.word? with
  | some found => .ok found
  | none => .error (.missingWord what)

/-- A word as a number. -/
def number (w : String) : Except Problem Nat :=
  (Text.readNat w.toList).mapError (.notInteger w)

/-- The next word as a number. -/
def count (what : String) (s : Scanner) : Except Problem (Nat × Scanner) := do
  let (w, s) ← word what s
  return (← number w, s)

/-- All that is left. -/
def rest (what : String) (s : Scanner) : Except Problem String :=
  match s.all? with
  | some t => .ok t
  | none => .error (.missingText what)

/-- All that is left as a pattern. -/
def pattern (make : Pattern → Directive) (s : Scanner) : Except Problem Directive := do
  return make (← Sed.pattern (← rest "regular expression" s))

/-- No arguments. -/
def nothing (d : Directive) (s : Scanner) : Except Problem Directive := done d s

/-- One number. -/
def oneCount (what : String) (make : Nat → Directive) (s : Scanner) :
    Except Problem Directive := do
  let (n, s) ← count what s
  done (make n) s

/-- One word. -/
def oneWord (what : String) (make : String → Directive) (s : Scanner) :
    Except Problem Directive := do
  let (w, s) ← word what s
  done (make w) s

/-- Two words. -/
def twoWords (first second : String) (make : String → String → Directive) (s : Scanner) :
    Except Problem Directive := do
  let (v, s) ← word first s
  let (w, s) ← word second s
  done (make v w) s

/-- A number of races, three if there is none, and a seed, if there is one. -/
def races (s : Scanner) : Except Problem Directive :=
  match s.word? with
  | none => .ok (.demo 3 none)
  | some (w, s) => do
    let n ← number w
    match s.word? with
    | none => return .demo n none
    | some (w, s) => done (.demo n (some (← number w))) s

/-- A color. -/
def color (s : Scanner) : Except Problem Directive := do
  let t ← rest "color" s
  return .color (← (Color.ofText t).mapError .badColor)

/-- A date format. -/
def dateFormat (s : Scanner) : Except Problem Directive := do
  let (w, s) ← word "date format" s
  let d ← done (.dateFormat w) s
  if DateFormat.isValid w then return d else .error (.badDateFormat w)

/-- The names of fields, with blanks or commas between them. -/
def fieldNames (cs : List Char) : List String :=
  (Text.words (cs.map fun c => if c = ',' then ' ' else c)).map String.ofList

/-- A list of fields. -/
def fields (s : Scanner) : Except Problem Directive := do
  return .sort (fieldNames (← rest "field list" s).toList)

/-- A stream edit. -/
def sed (s : Scanner) : Except Problem Directive := do
  let (address, action) ← Sed.setup s
  return .sed address action

end Arguments

/-- What is known about a directive. -/
structure Registry.Entry where
  op : String
  /-- What its arguments look like. -/
  args : String
  category : Category
  /-- What it does. -/
  description : String
  /-- Reads its arguments. -/
  setup : Scanner → Except Problem Directive

namespace Registry

open Arguments

/-- The directives that add lines, and those about lines that are loaded. -/
def adding : List Entry := [
  ⟨"<", "file name/pattern", .adding, "load log lines from matching files in order created",
    fun s => do return .load (← rest "file name pattern" s)⟩,
  ⟨"demo", "[races [seed]]", .adding, "generate sample log lines programmatically", races⟩,
  ⟨"require", "regex", .adding, "when loading lines, filter out any that don't match regex",
    pattern .require⟩,
  ⟨"exclude", "regex", .adding, "when loading lines, filter out any that do match regex",
    pattern .exclude⟩,
  ⟨"requireToday", "", .adding,
    "when loading lines, filter out any that don't contain the current date",
    nothing .requireToday⟩,
  ⟨"clearFilters", "", .adding, "clear any line loading filters", nothing .clearFilters⟩,
  ⟨"limit", "N", .adding, "read at most N lines from each file (0 for no limit)",
    oneCount "line limit" .limit⟩,
  ⟨"replace", "a b", .adding, "when importing lines, replace any occurrence of a with b",
    twoWords "text to replace" "replacement text" .replace⟩]

/-- The directives that remove lines. -/
def removing : List Entry := [
  ⟨"chop", "", .removing, "remove hidden lines; they can't be unhidden afterwards",
    nothing .chop⟩,
  ⟨"clear", "", .removing, "remove all lines", nothing .clear⟩]

/-- The directives that change lines. -/
def adjusting : List Entry := [
  ⟨"truncate", "N", .adjusting, "shorten lines longer than N characters",
    oneCount "maximum line length" .truncate⟩,
  ⟨"@", "fieldToAdd fieldToMatch", .adjusting,
    "copy fieldToAdd onto lines missing it, from a line with the same fieldToMatch",
    twoWords "field to add" "field to match" .addField⟩,
  ⟨"kv", "regex", .adjusting, "extract fields using a regex with groups named key and value",
    pattern .keyValues⟩,
  ⟨"sort", "field1 field2 ...", .adjusting,
    "sort lines by the listed fields, then by line number", fields⟩,
  ⟨"sed", "[address] op [args]", .adjusting,
    "sed-style edit; address N, N,M or /regex/; op - + ~ s c i a d", sed⟩]

/-- The directives that show and hide lines. -/
def filtering : List Entry := [
  ⟨":", "color", .filter, "set the color for highlights that follow", color⟩,
  ⟨"=", "regex", .filter, "hide lines that don't match regex", pattern (.filter .required)⟩,
  ⟨"+", "regex", .filter, "unhide lines that match regex", pattern (.filter .add)⟩,
  ⟨"-", "regex", .filter, "hide lines that match regex", pattern (.filter .remove)⟩,
  ⟨"~", "regex", .filter, "highlight regex without changing which lines are visible",
    pattern (.filter .highlight)⟩,
  ⟨"==", "", .filter, "hide lines that have no highlights", nothing .hideUnmatched⟩,
  ⟨"today", "", .filter, "hide lines that don't contain the current date", nothing .today⟩,
  ⟨"dateFormat", "format", .filter, "strftime format used by today and requireToday",
    dateFormat⟩]

/-- The directives about sections. -/
def sectioning : List Entry := [
  ⟨"/r", "regex", .sections, "mark lines that match regex as section headers",
    pattern .divideByPattern⟩,
  ⟨"/f", "field", .sections,
    "mark lines where the value of field changes as section headers",
    oneWord "field name" .divideByField⟩,
  ⟨"/=", "regex", .sections, "hide any sections that don't have a line matching regex",
    pattern (.filterSections true)⟩,
  ⟨"/-", "regex", .sections, "hide any sections that do have a line matching regex",
    pattern (.filterSections false)⟩]

/-- The directives that look into the log. -/
def analysis : List Entry := [
  ⟨"d", "N", .analysis, "identify lines duplicated more than N times",
    oneCount "count threshold" .duplicates⟩,
  ⟨"sql", "...", .analysis,
    "run specified SQL command against extracted fields (without a query engine, " ++
      "lists the columns and row count)",
    fun s => do return .query (← rest "sql statement" s)⟩]

/-- The others. -/
def misc : List Entry := [
  ⟨"sleep", "N", .misc, "pause for N seconds", oneCount "seconds" .sleep⟩]

/-- Every directive. -/
def entries : List Entry :=
  adding ++ removing ++ adjusting ++ filtering ++ sectioning ++ analysis ++ misc

/-- The directive with an operator. -/
def find? (op : String) : Option Entry := entries.find? (·.op = op)

/-! ## The reference -/

/-- A usage filled up to a column, and what it does. -/
def usageLine (usage description : String) : String :=
  let cs := usage.toList
  String.ofList (cs ++ List.replicate (28 - cs.length) ' ') ++ "-- " ++ description ++ "\n"

/-- The usage of a directive. -/
def Entry.usage (e : Entry) : String := if e.args.isEmpty then e.op else e.op ++ " " ++ e.args

/-- The reference of a category. -/
def categoryText (c : Category) : String :=
  "\n" ++ c.heading ++ "\n" ++
    String.join ((entries.filter (·.category = c)).map fun e => usageLine e.usage e.description)

/-- The reference of all directives. -/
def referenceText : String :=
  "*** COMMENTS ***\n" ++
    usageLine "# comment" "ignore the contents of any line starting with #" ++
    String.join (Category.all.map categoryText)

end Registry

end LogSift
