import LogSift.Text.Find
import LogSift.Text.Hex

/-!
# TOML texts

A text stands between single or double quotes, three of them if it may run over several lines.
Between double quotes a backslash escapes. `Toml.quoted` writes a text between the first kind of
quotes that spares escapes.
-/

namespace LogSift.Toml

/-! ## Reading -/

/-- May the character stand in a comment? -/
def isPlain (c : Char) : Bool := c = '\t' || (' ' ≤ c && c != '\x7f')

/-- The number of some hexadecimal digits. -/
def hexNumber? (cs : List Char) : Option Nat :=
  cs.foldlM (fun n c => (Text.hexValue? c).map (n * 16 + ·)) 0

/-- The character whose number is given by as many digits, and what follows them. -/
def codePoint? (digits : Nat) (cs : List Char) : Option (Char × List Char) :=
  if (cs.take digits).length = digits then do
    let n ← hexNumber? (cs.take digits)
    if n < 0xD800 || (0xDFFF < n && n ≤ 0x10FFFF) then some (Char.ofNat n, cs.drop digits) else none
  else none

/-- The character that is escaped after a backslash. -/
def escape? : List Char → Option (Char × List Char)
  | 'b' :: rest => some ('\x08', rest)
  | 't' :: rest => some ('\t', rest)
  | 'n' :: rest => some ('\n', rest)
  | 'f' :: rest => some ('\x0c', rest)
  | 'r' :: rest => some ('\r', rest)
  | '"' :: rest => some ('"', rest)
  | '\\' :: rest => some ('\\', rest)
  | 'u' :: rest => codePoint? 4 rest
  | 'U' :: rest => codePoint? 8 rest
  | _ => none

/-- The end of a line at the front. -/
def newline? : List Char → Option (List Char)
  | '\n' :: rest => some rest
  | '\r' :: '\n' :: rest => some rest
  | _ => none

/-- A text without blanks and ends of lines at the front. -/
def dropSpace : Nat → List Char → List Char
  | 0, cs => cs
  | n + 1, ' ' :: rest => dropSpace n rest
  | n + 1, '\t' :: rest => dropSpace n rest
  | n + 1, cs =>
    match newline? cs with
    | some rest => dropSpace n rest
    | none => cs

/-- What follows a backslash at the end of a line: that end and all space after it are left
out. -/
def lineJoin? (cs : List Char) : Option (List Char) :=
  (newline? (cs.dropWhile fun c => c = ' ' || c = '\t')).map fun rest => dropSpace rest.length rest

/-- The rest of a text between quotes of one kind. -/
def shortText? (quote : Char) : Nat → List Char → Option (List Char × List Char)
  | 0, _ => none
  | _ + 1, [] => none
  | n + 1, c :: rest =>
    if c = quote then some ([], rest)
    else if c = '\\' && quote = '"' then do
      let (e, rest) ← escape? rest
      let (body, left) ← shortText? quote n rest
      return (e :: body, left)
    else if isPlain c then
      (shortText? quote n rest).map fun (body, left) => (c :: body, left)
    else none

/-- The rest of a text between three quotes of one kind. Up to two quotes more before the end
belong to the text. -/
def longText? (quote : Char) : Nat → List Char → Option (List Char × List Char)
  | 0, _ => none
  | n + 1, cs =>
    let run := (cs.takeWhile (· = quote)).length
    if 6 ≤ run then none
    else if 3 ≤ run then some (List.replicate (run - 3) quote, cs.drop run)
    else if 0 < run then
      (longText? quote n (cs.drop run)).map fun (body, left) =>
        (List.replicate run quote ++ body, left)
    else
      match newline? cs, cs with
      | some rest, _ => (longText? quote n rest).map fun (body, left) => ('\n' :: body, left)
      | none, '\\' :: rest =>
        if quote = '"' then
          match lineJoin? rest with
          | some rest => longText? quote n rest
          | none => do
            let (e, rest) ← escape? rest
            let (body, left) ← longText? quote n rest
            return (e :: body, left)
        else (longText? quote n rest).map fun (body, left) => ('\\' :: body, left)
      | none, c :: rest =>
        if isPlain c then (longText? quote n rest).map fun (body, left) => (c :: body, left)
        else none
      | none, [] => none

/-- The text on one line at the front. -/
def lineText? : List Char → Option (List Char × List Char)
  | '"' :: rest => shortText? '"' (rest.length + 1) rest
  | '\'' :: rest => shortText? '\'' (rest.length + 1) rest
  | _ => none

/-- The text at the front. An end of line right after three quotes does not belong to it. -/
def text? (cs : List Char) : Option (List Char × List Char) :=
  let long (quote : Char) (rest : List Char) :=
    let rest := (newline? rest).getD rest
    longText? quote (rest.length + 1) rest
  match cs with
  | '"' :: '"' :: '"' :: rest => long '"' rest
  | '\'' :: '\'' :: '\'' :: rest => long '\'' rest
  | cs => lineText? cs

/-! ## Writing -/

/-- The longest run of a quote in a text. `run` is how many stand before it and `longest` the
longest run so far. -/
def longestRun (quote : Char) (run longest : Nat) : List Char → Nat
  | [] => max run longest
  | c :: rest =>
    if c = quote then longestRun quote (run + 1) longest rest
    else longestRun quote 0 (max run longest) rest

/-- Does a character have to be escaped wherever it stands? -/
def isControl (c : Char) : Bool :=
  (c.toNat < 32 && c != '\t' && c != '\n') || c = '\x7f'

/-- A kind of quotes around a text. -/
structure Quotes where
  /-- The quote itself. -/
  mark : Char
  /-- How many of them stand on each side. -/
  count : Nat
deriving DecidableEq, Repr

namespace Quotes

/-- Are there escapes within the quotes? -/
def escapes (q : Quotes) : Bool := q.mark = '"'

/-- May the text run over several lines? -/
def isLong (q : Quotes) : Bool := 1 < q.count

/-- Can a text stand between the quotes with none of its characters escaped but tabs? -/
def suit (q : Quotes) (cs : List Char) : Bool :=
  !cs.any isControl && longestRun q.mark 0 0 cs < q.count && (q.isLong || !cs.contains '\n') &&
    !(q.escapes && cs.contains '\\')

/-- The quotes of a text: the first that suit it, or those in which all can be escaped. -/
def ofText (cs : List Char) : Quotes :=
  ([⟨'"', 1⟩, ⟨'\'', 1⟩, ⟨'"', 3⟩, ⟨'\'', 3⟩].find? (suit · cs)).getD
    ⟨'"', if cs.contains '\n' then 3 else 1⟩

end Quotes

/-- A hexadecimal digit in upper case. -/
def upperHex (n : Nat) : Char := (Text.hexDigit n).toUpper

/-- A character within double quotes, which is not one. -/
def escaped (long : Bool) (c : Char) : List Char :=
  match c with
  | '\x08' => ['\\', 'b']
  | '\t' => ['\\', 't']
  | '\n' => if long then ['\n'] else ['\\', 'n']
  | '\x0c' => ['\\', 'f']
  | '\r' => ['\\', 'r']
  | '\\' => ['\\', '\\']
  | c =>
    if isControl c then ['\\', 'u', '0', '0', upperHex (c.toNat / 16), upperHex (c.toNat % 16)]
    else [c]

/-- A text within double quotes. As many of its own as would end it are broken by an escape;
`run` is how many stand before it. -/
def escapedText (count : Nat) (run : Nat) : List Char → List Char
  | [] => []
  | '"' :: rest =>
    if run + 1 < count then '"' :: escapedText count (run + 1) rest
    else '\\' :: '"' :: escapedText count 0 rest
  | c :: rest => escaped (1 < count) c ++ escapedText count 0 rest

/-- A text as it is written. An end of line right after the quotes does not belong to it, so one
is put there if the text has others. -/
def quoted (text : String) : String :=
  let cs := text.toList
  let q := Quotes.ofText cs
  let around := List.replicate q.count q.mark
  let front := if cs.contains '\n' then ['\n'] else []
  let body := if q.escapes then escapedText q.count 0 cs else cs
  String.ofList (around ++ front ++ body ++ around)

end LogSift.Toml
