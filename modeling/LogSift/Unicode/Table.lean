import LogSift.CharSet

/-!
# Named tables of character sets

A property of characters has named values, and each value has a table. Names are compared
loosely: letter case, spaces, hyphens and underscores do not count, nor does a leading `is`.
-/

namespace LogSift.Unicode

/-- A value of a property: the names it answers to, each in loose form, and its table. -/
structure NamedTable where
  /-- The names, as `looseName` leaves them. -/
  names : List String
  /-- The ranges, as `CharSet.ofText` reads them, on several rows. -/
  rows : List String

/-- The set of a value. -/
def NamedTable.set (t : NamedTable) : CharSet := CharSet.ofText (" ".intercalate t.rows)

/-- The table of the value that answers to a name. -/
def NamedTable.find? (entries : List NamedTable) (name : String) : Option CharSet :=
  (entries.find? fun e => e.names.contains name).map NamedTable.set

/-- A value of a property whose set follows from other sets. -/
structure NamedSet where
  /-- The names, as `looseName` leaves them. -/
  names : List String
  set : Thunk CharSet

/-- The set of the value that answers to a name. -/
def NamedSet.find? (entries : List NamedSet) (name : String) : Option CharSet :=
  (entries.find? fun e => e.names.contains name).map fun e => e.set.get

/-- The letters of a name that count when names are compared. -/
def looseLetters (cs : List Char) : List Char :=
  (cs.filter fun c => c.toNat < 128 && c != ' ' && c != '_' && c != '-').map Char.toLower

/-- A name in loose form. The name `isc` belongs to a property and keeps its first letters. -/
def looseName (name : String) : String :=
  match name.toList with
  | i :: s :: rest =>
    if i.toLower = 'i' && s.toLower = 's' then
      if looseLetters rest = ['c'] then "isc" else String.ofList (looseLetters rest)
    else String.ofList (looseLetters (i :: s :: rest))
  | cs => String.ofList (looseLetters cs)

end LogSift.Unicode
