/-!
# Lines of a text

A line ends with a line feed, or with a carriage return and a line feed; neither belongs to
the line. A last line without an end is a line if it holds anything.
-/

namespace LogSift.Text

/-- A line that has been read backwards up to its line feed: the carriage return before it does
not belong to the line. -/
def closeLine : List Char → List Char
  | '\r' :: rest => rest.reverse
  | line => line.reverse

/-- The lines of a text after those already read. `done` holds these, the last one first, and
`line` what has been read of the current one, backwards. -/
def linesFrom (done : List (List Char)) (line : List Char) : List Char → List (List Char)
  | [] => (if line.isEmpty then done else line.reverse :: done).reverse
  | c :: rest =>
    if c = '\n' then linesFrom (closeLine line :: done) [] rest
    else linesFrom done (c :: line) rest

/-- The lines of a text. -/
def lines (cs : List Char) : List (List Char) := linesFrom [] [] cs

end LogSift.Text
