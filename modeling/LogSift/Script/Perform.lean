import LogSift.Clock.DateFormat
import LogSift.Demo
import LogSift.Log.Duplicate
import LogSift.Log.Field
import LogSift.Log.Kind
import LogSift.Log.Section
import LogSift.Script.Directive
import LogSift.Script.Load

/-!
# What directives do

Performing a directive yields its reports and the workspace afterwards, and the problem that it
met, if it did. Only loading files and asking for the current date meet problems.
-/

namespace LogSift

/-- What performing something leads to. -/
structure Performance where
  reports : List Report
  workspace : Workspace
  problem : Option Problem

namespace Performance

/-- Everything went well. -/
def done (w : Workspace) (lines : List String) : Performance :=
  ⟨lines.map .progress, w, none⟩

/-- The log has become another. -/
def ofLog (w : Workspace) (log : Log) (lines : List String) : Performance :=
  done { w with log } lines

/-- The settings have become others. -/
def ofSettings (w : Workspace) (settings : Settings) (lines : List String) : Performance :=
  done { w with settings } lines

/-- Nothing has changed because of a problem. -/
def failed (w : Workspace) (problem : Problem) : Performance := ⟨[], w, some problem⟩

end Performance

/-- The current date in a format, as a pattern. -/
def datePattern (now : Moment) (format : String) : Except Problem Pattern :=
  if DateFormat.isValid format then
    (Pattern.ofSource (now.format format)).mapError (.unusableDate format)
  else .error (.badDateFormat format)

open Performance

namespace SedAction

/-- What is reported before a stream edit. -/
def heading : SedAction → String
  | filter .remove => "hiding lines that match address"
  | filter .add => "unhiding lines that match address"
  | filter _ => "highlighting lines that match address"
  | replace pattern replacement _ => s!"replacing {pattern.source} with {replacement}"
  | change _ => "changing lines that match address"
  | insert _ => "inserting before lines that match address"
  | append _ => "appending after lines that match address"
  | delete => "deleting lines that match address"

/-- Performs a stream edit on a log, and counts what it does. -/
def apply (action : SedAction) (address : Option Address) (color : Color) (log : Log) : Nat × Log :=
  match action with
  | filter kind => log.filterLines none kind color address
  | replace pattern replacement all => log.replace pattern replacement all address
  | change text => log.change address text color
  | insert text => log.insertBefore address text color
  | append text => log.insertAfter address text color
  | delete => log.delete address

end SedAction

/-- What is reported of a query of a projection: the rows that the query engine answers with or
why it cannot, and without an engine what the projection looks like. -/
def World.answer (world : World) (projection : Projection) (sql : String) : List Report :=
  match world.queryEngine with
  | none => [
      .progress s!"... columns: {projection.schema}",
      .progress s!"... {projection.rowCount} row(s)",
      .progress "... no query engine attached"]
  | some ask =>
    match ask projection sql with
    | .ok rows => rows.map fun row => .progress ("... | " ++ ", ".intercalate row)
    | .error cause => [
        .warning "query failed" [("sql", sql), ("error", cause)],
        .progress s!"SQL ERROR: {cause}."]

namespace Workspace

/-- Filters the log by a pattern. -/
def filter (kind : FilterKind) (p : Pattern) (w : Workspace) : Performance :=
  let names := ", ".intercalate p.groupNames.mergeSort
  let (n, log) := w.log.filterLines (some p) kind w.settings.color none
  ofLog w log
    (s!"Applying regular expression: {p.source}" ::
      (if names = "" then [] else [s!"... field names: {names}"]) ++
      [s!"... {n} line(s) matched"])

/-- Requires lines that are loaded to match a pattern. -/
def require (p : Pattern) (w : Workspace) : Performance :=
  ofSettings w { w.settings with required := w.settings.required ++ [p] }
    [s!"Added filter: Lines loaded must match: {p.source}"]

/-- Adds the lines of some races. -/
def demo (world : World) (races : Nat) (seed : Option Nat) (w : Workspace) : Performance :=
  let texts := Demo.raceTexts Demo.choices races (.ofSeed (seed.getD world.seed)) world.now
  ofLog w (w.log.appendTexts texts)
    [s!"Generating demo data for {races} races", s!"... generated {texts.length} log lines"]

/-- Asks the projection a query. A query that fails does not fail the script. -/
def query (world : World) (sql : String) (w : Workspace) : Performance :=
  let projection := w.settings.projection.getD (Projection.build w.log)
  let source := if w.settings.projection.isSome then "... found current data"
    else "... consolidated data from log lines"
  ⟨.progress "Running SQL" :: .progress s!"... {sql}" :: .progress source ::
      world.answer projection sql,
    { w with settings := { w.settings with projection := some projection } }, none⟩

/-- Divides the log into sections. -/
def divide (what : String) (result : Nat × Log) (w : Workspace) : Performance :=
  ofLog w result.2 [s!"Dividing into sections {what}", s!"... found {result.1} section(s)"]

/-- Keeps or hides sections. -/
def filterSections (keep : Bool) (p : Pattern) (w : Workspace) : Performance :=
  let ((shown, hidden), log) := w.log.filterSections p (if keep then .required else .remove)
  let verb := if keep then "Keeping" else "Hiding"
  ofLog w log [
    s!"{verb} sections with lines matching {p.source}",
    s!"... {shown} section(s) visible, {hidden} hidden"]

/-- Summarizes repeated lines. -/
def summarize (threshold : Nat) (w : Workspace) : Performance :=
  let (n, log) := w.log.detectDuplicates threshold Text.kindOf
  ofLog w log
    (s!"Looking for lines that occur more than {threshold} times" ::
      (log.take n).map (fun l => s!"... found {l.text}") ++
      [s!"... added {n} summary line(s)"])

end Workspace

namespace Directive

/-- Performs a directive. -/
def perform (world : World) (w : Workspace) : Directive → Performance
  | load pattern =>
    let (reports, log, problem) := Load.load world.files w.settings pattern w.log
    ⟨reports, { w with log }, problem⟩
  | demo races seed => w.demo world races seed
  | require p => w.require p
  | exclude p =>
    ofSettings w { w.settings with excluded := w.settings.excluded ++ [p] }
      [s!"Added filter: Lines loaded must not match: {p.source}"]
  | requireToday =>
    match datePattern world.now w.settings.dateFormat with
    | .ok p => w.require p
    | .error problem => failed w problem
  | clearFilters => ofSettings w w.settings.clearFilters ["Cleared filters on lines loaded"]
  | limit n =>
    ofSettings w { w.settings with limit := n }
      [if n = 0 then "Removed limit on lines read per file"
        else s!"Limiting files to {Text.grouped n} lines"]
  | replace old new =>
    ofSettings w { w.settings with replacements := w.settings.replacements.insert old new }
      [s!"When importing, replacing {old} with {new}"]
  | chop =>
    let (n, log) := w.log.chop
    ofLog w log [s!"Removed {n} hidden line(s), {log.length} left"]
  | clear => ofLog w [] [s!"Cleared {w.log.length} line(s)"]
  | truncate characters =>
    let (n, log) := w.log.truncate characters
    ofLog w log [s!"Truncated {n} line(s) to {characters} characters"]
  | addField add known =>
    let (n, log) := w.log.addField add known
    ofLog w log [s!"Propagated known values from {known} to missing {add} on {n} lines"]
  | keyValues p =>
    let (n, log) := w.log.parseFields p
    ofLog w log [
      s!"Applying key/value expression: {p.source}",
      s!"... {log.length} line(s) processed, {n} with fields"]
  | sort fields =>
    let log := w.log.sortByFields fields
    let names := ", ".intercalate fields
    ofLog w log [s!"Sorted {log.length} log lines by {names}"]
  | sed address action =>
    let (n, log) := action.apply address w.settings.color w.log
    ofLog w log [action.heading, s!"updated {n} lines"]
  | color c =>
    ofSettings w { w.settings with color := c } [s!"Highlight color is now {c.toText}"]
  | filter kind p => w.filter kind p
  | hideUnmatched =>
    let (n, log) := w.log.hideUnmatched
    ofLog w log ["Hiding lines that are not highlighted", s!"... hid {n} line(s)"]
  | today =>
    match datePattern world.now w.settings.dateFormat with
    | .ok p => w.filter .required p
    | .error problem => failed w problem
  | dateFormat format =>
    ofSettings w { w.settings with dateFormat := format } [s!"Date format is now {format}"]
  | divideByPattern p =>
    w.divide s!"at lines matching {p.source}" (w.log.divideByPattern p w.settings.color)
  | divideByField field =>
    w.divide s!"where {field} changes" (w.log.divideByField field w.settings.color)
  | filterSections keep p => w.filterSections keep p
  | duplicates threshold => w.summarize threshold
  | query sql => w.query world sql
  | sleep seconds =>
    ⟨[.progress s!"Sleeping for {seconds} second(s)", .pause seconds], w, none⟩

end Directive

end LogSift
