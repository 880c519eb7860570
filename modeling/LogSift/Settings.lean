import LogSift.Projection

/-!
# Settings

Settings carry over from one directive to the next, and from one script to the next. They also
hold the projection of the log, once a query has asked for it and until the log changes.
-/

namespace LogSift

/-- What directives leave behind besides the log. -/
structure Settings where
  /-- The color of highlights and of starts of sections. -/
  color : Color
  /-- Lines that are loaded match all of these. -/
  required : List Pattern
  /-- Lines that are loaded match none of these. -/
  excluded : List Pattern
  /-- How the current date is written. -/
  dateFormat : String
  /-- The most lines read from a file; zero is no limit. -/
  limit : Nat
  /-- Texts replaced in lines that are loaded. -/
  replacements : Keyed String
  /-- The projection of the log, if it is at hand. -/
  projection : Option Projection

namespace Settings

/-- The date format as long as none is set. -/
def defaultDateFormat : String := "%m\\.%d\\.%y"

/-- The settings before any directive. -/
def initial : Settings :=
  ⟨Color.initial, [], [], defaultDateFormat, 0, Keyed.empty, none⟩

/-- Do the filters let a line be loaded? -/
def accepts (s : Settings) (text : String) : Bool :=
  s.required.all (·.hasMatch text.toList) && !s.excluded.any (·.hasMatch text.toList)

/-- A text with every occurrence of another replaced. An empty text occurs before every character
and at the end. -/
def substitute (old new text : List Char) : List Char :=
  if old.isEmpty then new ++ text.flatMap fun c => c :: new
  else Text.replaceAll old new (text.length + 1) text

/-- The text of a line as it is loaded: the replacements are made in the order of the texts they
replace. -/
def applyReplacements (s : Settings) (text : String) : String :=
  String.ofList
    (s.replacements.entries.foldl (fun acc e => substitute e.1.toList e.2.toList acc) text.toList)

/-- No filters on lines that are loaded. -/
def clearFilters (s : Settings) : Settings := { s with required := [], excluded := [] }

end Settings

end LogSift
