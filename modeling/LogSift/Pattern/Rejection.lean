import LogSift.Pattern.Fault
import LogSift.Text.Blank
import LogSift.Text.Find
import LogSift.Text.Lines

/-!
# What the writer of a pattern is told

The compiler reports a fault in several lines: a heading, the pattern, and the diagnosis. A
`Rejection` condenses the report to one line with advice. The kind of a rejection is found by
looking for telling words in the report, and the place of an unclosed delimiter by going
through the pattern once more, which knows escapes and nothing else.
-/

namespace LogSift.Pattern

/-- The kind of a rejection. -/
inductive RejectionKind
  /-- An opening delimiter is not closed; `position` is its offset in bytes. -/
  | unclosedDelimiter (delimiter : Char) (position : Nat)
  | invalidQuantifier (message : String)
  | lookAround
  | backreference
  | tooBig
  | syntaxError (message : String)
deriving DecidableEq, Repr

/-- A pattern that was refused, and why. -/
structure Rejection where
  pattern : String
  kind : RejectionKind
deriving DecidableEq, Repr

namespace Fault

/-- The first line of every report. -/
def heading : List Char := "regex parse error:".toList

/-- The last line of a report. -/
def verdict (f : Fault) : List Char := "error: ".toList ++ f.diagnosis.toList

/-- The lines of the report on a fault of a pattern that can tell anything: the heading, the
pattern, indented, and the verdict. The compiler puts more in between: under a line of the pattern
blanks and carets where the fault is; if the pattern has several lines, dividers around them and
their numbers in place of the indent; and if the fault has several, the lines and columns in which
it starts and ends. All that is left out here. The heading is the first line and the verdict the
last one in any case, and what is left out has none of the words that are looked for, of which
none goes over a blank, a digit or the end of a line (`classify_laid`). -/
def report (f : Fault) (compiled : List Char) : List (List Char) :=
  heading :: ((Text.lines compiled).map fun l => "    ".toList ++ l) ++ [f.verdict]

end Fault

/-- Lower case as far as it leads to ASCII letters: those of the ASCII capitals, and of the
Kelvin sign. -/
def lowerAscii (c : Char) : Char := if c = '\u212a' then 'k' else c.toLower

namespace Rejection

/-- Does a report hold a word, in any case? -/
def mentions (report : List (List Char)) (word : String) : Bool :=
  report.any fun line => Text.holds word.toList (line.map lowerAscii)

/-- The place of the first opening delimiter that is never closed. `waiting` are the places of
those that are open, the innermost first, and `offset` is the place of the text. -/
def unclosed? (opener closer : Char) (waiting : List Nat) (escaped : Bool) (offset : Nat) :
    List Char → Option Nat
  | [] => waiting.getLast?
  | c :: rest =>
    let next := offset + c.utf8Size
    if escaped then unclosed? opener closer waiting false next rest
    else if c = '\\' then unclosed? opener closer waiting true next rest
    else if c = opener then unclosed? opener closer (offset :: waiting) false next rest
    else if c = closer then unclosed? opener closer waiting.tail false next rest
    else unclosed? opener closer waiting false next rest

/-- The delimiters, in the order in which they are looked for. -/
def delimiters : List (Char × Char) := [('(', ')'), ('[', ']'), ('\x7b', '\x7d')]

/-- The first delimiter that is left open in a pattern. -/
def openDelimiter? (pattern : List Char) : Option RejectionKind :=
  delimiters.findSome? fun (opener, closer) =>
    (unclosed? opener closer [] false 0 pattern).map (.unclosedDelimiter opener)

/-- The first line that is not blank, trimmed. -/
def firstLine (report : List (List Char)) : String :=
  String.ofList (((report.map Text.trim).find? (!·.isEmpty)).getD [])

/-- The last line that is not blank, trimmed. -/
def lastLine (report : List (List Char)) : String := firstLine report.reverse

/-- The kind of a rejection, from the report on the fault of a pattern. -/
def classify (report : List (List Char)) (pattern : List Char) : RejectionKind :=
  match if mentions report "unclosed" then openDelimiter? pattern else none with
  | some kind => kind
  | none =>
    if mentions report "look-around" || mentions report "lookaround" then .lookAround
    else if mentions report "backreference" then .backreference
    else if mentions report "repetition" || mentions report "quantifier" then
      .invalidQuantifier (firstLine report)
    else .syntaxError (lastLine report)

/-- The rejection of a pattern for a fault found in `compiled`, the pattern or what was made of
it. -/
def ofFault (f : Fault) (compiled pattern : List Char) : Rejection :=
  ⟨String.ofList pattern,
    if f = .tooBig then .tooBig else classify (f.report compiled) pattern⟩

/-- What a rejection is about. -/
def detail : RejectionKind → String
  | .unclosedDelimiter delimiter position =>
    s!"unclosed '{delimiter}' at position {position}"
  | .invalidQuantifier message => message
  | .lookAround => "look-around is not supported"
  | .backreference => "backreferences are not supported"
  | .tooBig => "compiled pattern is too big"
  | .syntaxError message => message

/-- The delimiter that closes another. -/
def closerOf (opener : Char) : Char :=
  if opener = '(' then ')' else if opener = '[' then ']' else '\x7d'

/-- What the writer can do about it. -/
def advice? : RejectionKind → Option String
  | .unclosedDelimiter delimiter _ =>
    some s!"add a closing '{closerOf delimiter}' or escape the '{delimiter}' as '\\{delimiter}'"
  | .invalidQuantifier _ =>
    some ("a quantifier (*, +, ?, \x7bn\x7d) needs something to repeat, e.g. 'a*' or " ++
      "'(foo)+'")
  | .lookAround =>
    some "lookahead and lookbehind are not supported; match the context instead"
  | .backreference => some "backreferences like \\1 are not supported in patterns"
  | .tooBig => some "simplify the pattern or reduce repetition counts"
  | .syntaxError _ => none

/-- The one line a script's author sees. -/
def message (r : Rejection) : String :=
  match advice? r.kind with
  | some advice =>
    s!"invalid regular expression: {r.pattern} ({detail r.kind}; {advice})"
  | none => s!"invalid regular expression: {r.pattern} ({detail r.kind})"

end Rejection

end LogSift.Pattern
