import LogSift.Pattern
import LogSift.Text.Blank
import LogSift.Text.Bytes
import LogSift.Text.Decimal
import LogSift.Unicode.Recent

/-!
# The words of a directive

A `Scanner` holds what is left of a directive's line. It is consumed from the left: a word, what
a pattern finds, a literal between delimiters, or all the rest. What is left never starts with a
blank.
-/

namespace LogSift

/-- What is left of a line. -/
structure Scanner where
  rest : List Char
deriving DecidableEq, Repr, Inhabited

namespace Scanner

/-- Is nothing left? -/
def isDone (s : Scanner) : Bool := s.rest.isEmpty

/-- The next character. -/
def peek? (s : Scanner) : Option Char := s.rest.head?

/-- The scanner of a text, less the blanks it starts with. -/
def ofRest (cs : List Char) : Scanner := ⟨Text.trimStart cs⟩

/-- The next word. -/
def word? (s : Scanner) : Option (String × Scanner) :=
  if s.isDone then none
  else
    let (word, rest) := Text.splitWord s.rest
    some (String.ofList word, ⟨rest⟩)

/-- The next word as a number. A word that is no number is consumed all the same. -/
def int? (s : Scanner) : Option Int × Scanner :=
  match s.word? with
  | none => (none, s)
  | some (word, s) => ((Text.readInt word.toList).toOption, s)

/-- What a pattern finds first, if that is at the front and not empty. -/
def matching? (p : Pattern) (s : Scanner) : Option (String × Scanner) :=
  match (p.allMatches s.rest).map (·.span) with
  | [] => none
  | found :: _ =>
    if found.start = 0 && 0 < found.stop then
      let (text, rest) := Text.splitBytes found.stop s.rest
      some (String.ofList text, ⟨Text.trimStart rest⟩)
    else none

/-- All that is left. -/
def all? (s : Scanner) : Option String :=
  if s.isDone then none else some (String.ofList s.rest)

/-- The operator of a line and a scanner of its arguments. A blank line and one that starts with
`#` have none. -/
def ofLine (line : String) : Option (String × Scanner) :=
  let trimmed := Text.trim line.toList
  if trimmed.head? = some '#' then none else word? ⟨trimmed⟩

/-- The literal up to a delimiter, and what follows that. A backslash before the delimiter makes
it a part of the literal and is dropped; before another character it stays. -/
def literal? (delimiter : Char) : List Char → Option (List Char × List Char)
  | [] => none
  | c :: rest =>
    if c = '\\' then
      match rest with
      | [] => none
      | e :: rest =>
        (literal? delimiter rest).map fun (body, left) =>
          ((if e = delimiter then [e] else [c, e]) ++ body, left)
    else if c = delimiter then some ([], rest)
    else (literal? delimiter rest).map fun (body, left) => (c :: body, left)

/-- Several literals that share their delimiters. -/
def literalsFrom? (delimiter : Char) : Nat → List Char → Option (List (List Char) × List Char)
  | 0, cs => some ([], cs)
  | n + 1, cs =>
    match literal? delimiter cs with
    | none => none
    | some (body, left) =>
      (literalsFrom? delimiter n left).map fun (more, left) => (body :: more, left)

/-- Can the character delimit literals? -/
def isDelimiter (c : Char) : Bool :=
  !Unicode.Recent.alphanumeric.get.contains c && !isBlank c && c != '\\'

/-- A number of literals wrapped in the next character, such as `/a/b/` for two. -/
def literals? (count : Nat) (s : Scanner) : Option (List String × Scanner) :=
  match s.rest with
  | [] => none
  | delimiter :: rest =>
    if count = 0 || !isDelimiter delimiter then none
    else
      (literalsFrom? delimiter count rest).map fun (bodies, left) =>
        (bodies.map String.ofList, ofRest left)

/-- One literal wrapped in the next character. -/
def literalText? (s : Scanner) : Option (String × Scanner) :=
  match s.literals? 1 with
  | some ([body], left) => some (body, left)
  | _ => none

end Scanner

end LogSift
