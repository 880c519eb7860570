import LogSift.Log.Basic
import LogSift.Text.Decimal
import LogSift.Unicode.Lower

/-!
# Projections

A projection shows the fields of the visible lines as a table: a row for each line, a column
for each name in lower case, and a column `text` for the line itself. A column holds integers
as long as every value in it is one.
-/

namespace LogSift

/-- What the values of a column are. -/
inductive ColumnType
  | integer
  | text
deriving DecidableEq, Repr

/-- The name of a type in a schema. -/
def ColumnType.name : ColumnType → String
  | integer => "INTEGER"
  | text => "TEXT"

/-- The visible lines as a table. -/
structure Projection where
  columns : Keyed ColumnType
  rows : List (Keyed String)
deriving DecidableEq, Repr

namespace Projection

/-- The column that holds the lines themselves. -/
def textColumn : String := "text"

/-- Is a value an integer of 64 bits? -/
def isInteger (value : String) : Bool := (Text.readInt value.toList).toOption.isSome

/-- Notes a value under a column: the column keeps its type if the value is an integer. -/
def note (columns : Keyed ColumnType) (name value : String) : Keyed ColumnType :=
  if isInteger value then
    columns.insert name ((columns.find? name).getD .integer)
  else columns.insert name .text

/-- The fields of a line under their names in lower case, without one that would be called
`text`. -/
def cells (l : Line) : List (String × String) :=
  (l.fields.entries.map fun e => (Unicode.lower e.1, e.2)).filter (·.1 != textColumn)

/-- The row of a line. -/
def row (l : Line) : Keyed String := (Keyed.ofList (cells l)).insert textColumn l.text

/-- The table of a log. -/
def build (log : Log) : Projection :=
  let shown := log.filter (·.visible)
  { columns :=
      (shown.flatMap cells).foldl (fun acc c => note acc c.1 c.2)
        (Keyed.empty.insert textColumn .text)
    rows := shown.map row }

/-- The number of rows. -/
def rowCount (p : Projection) : Nat := p.rows.length

/-- The columns with their types, such as `id INTEGER, text TEXT`. -/
def schema (p : Projection) : String :=
  ", ".intercalate (p.columns.entries.map fun e => s!"{e.1} {e.2.name}")

end Projection

end LogSift
