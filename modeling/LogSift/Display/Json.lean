import LogSift.Log.Basic

/-!
# Lines as JSON

Lines are written as a JSON array of objects, with one value or bracket to a line of text, and two
spaces more for every level.
-/

namespace LogSift.Display.Json

/-- A character within quotes. -/
def escaped (c : Char) : List Char :=
  match c with
  | '"' => ['\\', '"']
  | '\\' => ['\\', '\\']
  | '\n' => ['\\', 'n']
  | '\r' => ['\\', 'r']
  | '\t' => ['\\', 't']
  | '\x08' => ['\\', 'b']
  | '\x0c' => ['\\', 'f']
  | c =>
    if c.toNat < 32 then
      ['\\', 'u', '0', '0', Text.hexDigit (c.toNat / 16), Text.hexDigit (c.toNat % 16)]
    else [c]

/-- A text in quotes. -/
def quoted (text : String) : String :=
  String.ofList ('"' :: text.toList.flatMap escaped ++ ['"'])

/-- A truth value. -/
def flag (b : Bool) : String := if b then "true" else "false"

/-- The blanks before a line at a level. -/
def indent (level : Nat) : String := String.ofList (List.replicate (2 * level) ' ')

/-- Values between brackets, at a level. Without values the brackets stand together. -/
def block (opener closer : String) (level : Nat) (values : List String) : String :=
  if values.isEmpty then opener ++ closer
  else
    opener ++ "\n" ++ ",\n".intercalate (values.map (indent (level + 1) ++ ·)) ++ "\n" ++
      indent level ++ closer

/-- A list of values. -/
def list (level : Nat) (values : List String) : String := block "[" "]" level values

/-- Named values. -/
def object (level : Nat) (members : List (String × String)) : String :=
  block "\x7b" "\x7d" level (members.map fun m => quoted m.1 ++ ": " ++ m.2)

/-- A highlight. -/
def highlight (level : Nat) (h : Highlight) : String :=
  object level [
    ("range", object (level + 1)
      [("start", toString h.span.start), ("end", toString h.span.stop)]),
    ("color", quoted h.color.toText)]

/-- A line. -/
def line (level : Nat) (l : Line) : String :=
  object level [
    ("text", quoted l.text),
    ("line_number", toString l.number),
    ("visible", flag l.visible),
    ("matched", flag l.matched),
    ("fields", object (level + 1) (l.fields.entries.map fun e => (e.1, quoted e.2))),
    ("begin_section", flag l.beginSection),
    ("highlights", list (level + 1) (l.highlights.map (highlight (level + 2))))]

end LogSift.Display.Json
