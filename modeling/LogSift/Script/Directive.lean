import LogSift.Script.Sed

/-!
# Directives

A directive is one line of a script with all its arguments read. `Directive.changesLog` tells the
directives that work on the log from those that only set or ask something.
-/

namespace LogSift

/-- One step of a script. -/
inductive Directive
  /-- Loads the lines of the files that match. -/
  | load (pattern : String)
  /-- Makes up the log of some races. Without a seed, chance decides. -/
  | demo (races : Nat) (seed : Option Nat)
  /-- Lines that are loaded have to match. -/
  | require (pattern : Pattern)
  /-- Lines that are loaded must not match. -/
  | exclude (pattern : Pattern)
  /-- Lines that are loaded have to hold the current date. -/
  | requireToday
  | clearFilters
  /-- Reads no more lines from a file; zero is no limit. -/
  | limit (lines : Nat)
  /-- Replaces a text in lines that are loaded. -/
  | replace (old new : String)
  /-- Removes the hidden lines. -/
  | chop
  /-- Removes all lines. -/
  | clear
  | truncate (characters : Nat)
  /-- Fills in a field from lines that agree in another. -/
  | addField (add known : String)
  /-- Extracts fields by a pattern with groups `key` and `value`. -/
  | keyValues (pattern : Pattern)
  | sort (fields : List String)
  | sed (address : Option Address) (action : SedAction)
  | color (color : Color)
  | filter (kind : FilterKind) (pattern : Pattern)
  /-- Hides the lines that no filter has matched. -/
  | hideUnmatched
  /-- Hides the lines without the current date. -/
  | today
  | dateFormat (format : String)
  | divideByPattern (pattern : Pattern)
  | divideByField (field : String)
  /-- Keeps the sections with a match, or hides them. -/
  | filterSections (keep : Bool) (pattern : Pattern)
  /-- Puts summaries of repeated lines at the top. -/
  | duplicates (threshold : Nat)
  /-- Asks a query of the projection. -/
  | query (sql : String)
  /-- Waits. -/
  | sleep (seconds : Nat)

/-- The operator of a filter. -/
def FilterKind.op : FilterKind → String
  | required => "="
  | add => "+"
  | remove => "-"
  | highlight => "~"

namespace Directive

/-- The operator, which also stands for the directive in a history. -/
def op : Directive → String
  | load _ => "<"
  | demo _ _ => "demo"
  | require _ => "require"
  | exclude _ => "exclude"
  | requireToday => "requireToday"
  | clearFilters => "clearFilters"
  | limit _ => "limit"
  | replace _ _ => "replace"
  | chop => "chop"
  | clear => "clear"
  | truncate _ => "truncate"
  | addField _ _ => "@"
  | keyValues _ => "kv"
  | sort _ => "sort"
  | sed _ _ => "sed"
  | color _ => ":"
  | filter kind _ => kind.op
  | hideUnmatched => "=="
  | today => "today"
  | dateFormat _ => "dateFormat"
  | divideByPattern _ => "/r"
  | divideByField _ => "/f"
  | filterSections keep _ => if keep then "/=" else "/-"
  | duplicates _ => "d"
  | query _ => "sql"
  | sleep _ => "sleep"

/-- Does the directive work on the log? -/
def changesLog : Directive → Bool
  | load _ => true
  | demo _ _ => true
  | require _ => false
  | exclude _ => false
  | requireToday => false
  | clearFilters => false
  | limit _ => false
  | replace _ _ => false
  | chop => true
  | clear => true
  | truncate _ => true
  | addField _ _ => true
  | keyValues _ => true
  | sort _ => true
  | sed _ _ => true
  | color _ => false
  | filter _ _ => true
  | hideUnmatched => true
  | today => true
  | dateFormat _ => false
  | divideByPattern _ => true
  | divideByField _ => true
  | filterSections _ _ => true
  | duplicates _ => true
  | query _ => false
  | sleep _ => false

/-- What is checked once a whole script has been read: the pattern of `kv` has just the groups
`key` and `value`. -/
def validate : Directive → Except Problem Unit
  | keyValues p =>
    if p.groupNames = ["key", "value"] then .ok () else .error (.noKeyAndValue p.source)
  | _ => .ok ()

end Directive

end LogSift
