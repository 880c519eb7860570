import LogSift.Color
import LogSift.Keyed
import LogSift.Pattern
import LogSift.Text.Bytes

/-!
# Lines

A `Line` is a text with all that scripts make of it: its number, whether it is shown and has
been matched, its fields, whether a section starts at it, and its highlights. A highlight is a
span of bytes with a color. Edits of the text carry the highlights along: `Line.applyEdits`
moves each end by what the edits before it added or took away, and an end within an edited part
goes to the edge of what replaced it.
-/

namespace LogSift

open Pattern (Span)

/-- A colored span of a line. -/
structure Highlight where
  span : Span
  color : Color
deriving DecidableEq, Repr

/-- A part of a text that was replaced: where it was, and the length in bytes of what replaced
it. -/
structure Edit where
  start : Nat
  stop : Nat
  newLength : Nat
deriving DecidableEq, Repr

/-- A line of a log. -/
structure Line where
  text : String
  /-- Its number; lines are numbered from one on. -/
  number : Nat
  /-- Is it shown? -/
  visible : Bool
  /-- Has a filter selected it? -/
  matched : Bool
  /-- What has been extracted from it. -/
  fields : Keyed String
  /-- Does a section start here? -/
  beginSection : Bool
  /-- Its highlights, the last one on top. -/
  highlights : List Highlight
deriving DecidableEq, Repr

namespace Line

/-- A line as it is loaded. -/
def ofText (text : String) (number : Nat) : Line :=
  ⟨text, number, true, false, Keyed.empty, false, []⟩

/-- The length of the text in bytes. -/
def byteLength (l : Line) : Nat := Text.byteLength l.text.toList

/-- The value of a field. -/
def field? (l : Line) (name : String) : Option String := l.fields.find? name

/-- Has the line a field? -/
def hasField (l : Line) (name : String) : Bool := l.fields.has name

/-- Sets a field. -/
def setField (l : Line) (name value : String) : Line :=
  { l with fields := l.fields.insert name value }

/-- Sets fields, the later ones winning. -/
def mergeFields (l : Line) (pairs : List (String × String)) : Line :=
  { l with fields := l.fields.insertAll pairs }

/-- Adds a highlight, unless it is empty or reaches beyond the text. -/
def highlight (l : Line) (span : Span) (color : Color) : Line :=
  if span.start < span.stop && span.stop ≤ l.byteLength then
    { l with highlights := l.highlights ++ [⟨span, color⟩] }
  else l

/-- Adds highlights of one color. -/
def highlightSpans (l : Line) (spans : List Span) (color : Color) : Line :=
  spans.foldl (fun acc s => acc.highlight s color) l

/-- Highlights the whole text. -/
def highlightAll (l : Line) (color : Color) : Line := l.highlight ⟨0, l.byteLength⟩ color

/-- Makes the line the start of a section. -/
def startSection (l : Line) (color : Color) : Line :=
  { l with beginSection := true }.highlightAll color

/-- Replaces the text and highlights all of it. -/
def setText (l : Line) (text : String) (color : Color) : Line :=
  { l with text, highlights := [] }.highlightAll color

/-- Where a place comes to lie after edits. `shift` is what the edits so far have added to the
text; an end within an edited part goes to the back of its replacement, a start to the front. -/
def remap (isEnd : Bool) (pos : Nat) (shift : Int) : List Edit → Int
  | [] => pos + shift
  | e :: rest =>
    if e.stop ≤ pos then remap isEnd pos (shift + e.newLength - (e.stop - e.start : Int)) rest
    else if e.start < pos then
      if isEnd then e.start + shift + e.newLength else e.start + shift
    else pos + shift

/-- A place in a text of some length. Places are counted in unsigned words of 64 bits, so that one
outside the text wraps around. -/
def place (length : Nat) (pos : Int) : Nat :=
  if 0 ≤ pos ∧ pos ≤ length then pos.toNat else (pos % 0x10000000000000000).toNat

/-- Where a highlight comes to lie after edits, if anything is left of it in a text of the
given length. -/
def remapHighlight? (edits : List Edit) (length : Nat) (h : Highlight) : Option Highlight :=
  let start := place length (remap false h.span.start 0 edits)
  let stop := place length (remap true h.span.stop 0 edits)
  if start < stop && stop ≤ length then some ⟨⟨start, stop⟩, h.color⟩ else none

/-- Replaces the text after edits in order that do not overlap, and moves the highlights. -/
def applyEdits (l : Line) (text : String) (edits : List Edit) : Line :=
  { l with
    text
    highlights := l.highlights.filterMap (remapHighlight? edits (Text.byteLength text.toList)) }

/-- What is left of a highlight before a cut. -/
def clip? (cut : Nat) (h : Highlight) : Option Highlight :=
  let stop := min h.span.stop cut
  let start := min h.span.start stop
  if start < stop then some ⟨⟨start, stop⟩, h.color⟩ else none

/-- Is the text longer than a number of characters? -/
def exceeds (l : Line) (limit : Nat) : Bool := limit < l.text.toList.length

/-- Shortens the text to a number of characters. -/
def truncate (l : Line) (limit : Nat) : Line :=
  if l.exceeds limit then
    let kept := l.text.toList.take limit
    { l with
      text := String.ofList kept
      highlights := l.highlights.filterMap (clip? (Text.byteLength kept)) }
  else l

/-! ## Patterns in a line -/

/-- The text of a span. -/
def sliceText (l : Line) (s : Span) : String :=
  String.ofList (Text.slice s.start s.stop l.text.toList)

/-- The named groups of each match, with what they matched; matches without any are left
out. -/
def captures (l : Line) (p : Pattern) : List (Keyed String) :=
  let named := p.captureNames
  ((p.allMatches l.text.toList).map fun m =>
    Keyed.ofList (named.filterMap fun name => (p.named? name m).map fun s => (name, l.sliceText s))
    ).filter fun k => !k.isEmpty

/-- The spans of the matches of a pattern that are replaced: all of them or the first. -/
def replacedSpans (l : Line) (p : Pattern) (all : Bool) : List Span :=
  let found := (p.allMatches l.text.toList).map (·.span)
  if all then found else found.take 1

/-- The text from `offset` on with spans of it replaced. -/
def splice (cs replacement : List Char) (offset : Nat) : List Span → List Char
  | [] => cs
  | s :: rest =>
    let (front, back) := Text.splitBytes (s.start - offset) cs
    front ++ replacement ++
      splice (Text.splitBytes (s.stop - s.start) back).2 replacement s.stop rest

/-- The text with the matches of a pattern replaced by another. -/
def replacedText (l : Line) (p : Pattern) (replacement : String) (all : Bool) : String :=
  String.ofList (splice l.text.toList replacement.toList 0 (l.replacedSpans p all))

/-- Replaces the matches of a pattern, all of them or the first, by a text. The result is `none`
if that changes nothing. -/
def replace? (l : Line) (p : Pattern) (replacement : String) (all : Bool) : Option Line :=
  let new := l.replacedText p replacement all
  if new = l.text then none
  else
    some (l.applyEdits new ((l.replacedSpans p all).map fun s =>
      ⟨s.start, s.stop, Text.byteLength replacement.toList⟩))

end Line

end LogSift
