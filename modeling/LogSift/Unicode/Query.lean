import LogSift.Unicode.Age
import LogSift.Unicode.Break

/-!
# Asking for a set by its property

A query gives one name, which may be that of a property, a category or a script, or the names
of a property and of one of its values. A failed query says which of the two was not found.
-/

namespace LogSift.Unicode

/-- The digits of all scripts. -/
def digit : CharSet := Category.ofCode "nd"

/-- White space. -/
def space : CharSet := Property.ofName "whitespace"

/-- Letters, marks, digits, connectors and joiners: what words are made of. -/
def word : Thunk CharSet := Thunk.mk fun _ =>
  CharSet.unions [Property.alphabetic.get, Category.group ["mc", "me", "mn"], digit,
    Category.ofCode "pc", Property.ofName "joincontrol"]

/-- What a query names. -/
inductive Query
  /-- A property, category or script. -/
  | named (name : String)
  /-- A value of a property. -/
  | valued (property value : String)
deriving DecidableEq, Repr

/-- What a failed query did not find. -/
inductive Query.Unknown
  | property
  | value
deriving DecidableEq, Repr

namespace Query

/-- A set that a known name may lack. -/
def orUnknownValue : Option CharSet → Except Unknown CharSet
  | some s => .ok s
  | none => .error .value

/-- The set of a single name. The names `cf`, `sc` and `lc` are categories before they are
anything else. -/
def named? (name : String) : Except Unknown CharSet :=
  let asCategory : Except Unknown CharSet :=
    match Category.find? name with
    | some found => orUnknownValue found
    | none =>
      match Script.find? name with
      | some found => orUnknownValue found
      | none => .error .property
  if name = "cf" || name = "sc" || name = "lc" then asCategory
  else match Property.find? name with
    | some s => .ok s
    | none =>
      if Property.unlisted.contains name || name = "gc" || name = "generalcategory"
          || name = "script" || name = "scx" || name = "scriptextensions" then
        .error .property
      else asCategory

/-- The set of a property's value. -/
def valued? (property value : String) : Except Unknown CharSet :=
  if property = "gc" || property = "generalcategory" then
    orUnknownValue ((Category.find? value).getD none)
  else if property = "sc" || property = "script" then
    orUnknownValue ((Script.find? value).getD none)
  else if property = "scx" || property = "scriptextensions" then
    orUnknownValue ((Script.findExtended? value).getD none)
  else if property = "age" then orUnknownValue (Age.find? value)
  else if property = "gcb" || property = "graphemeclusterbreak" then
    orUnknownValue (NamedSet.find? Break.grapheme value)
  else if property = "wb" || property = "wordbreak" then
    orUnknownValue (NamedSet.find? Break.word value)
  else if property = "sb" || property = "sentencebreak" then
    orUnknownValue (NamedSet.find? Break.sentence value)
  else if Property.unlisted.contains property || (Property.find? property).isSome
      || property = "cf" || property = "lc" then
    .error .value
  else .error .property

/-- The set a query asks for. -/
def resolve : Query → Except Unknown CharSet
  | .named name => named? (looseName name)
  | .valued property value => valued? (looseName property) (looseName value)

end Query

end LogSift.Unicode
