import LogSift.Display.Style
import LogSift.Line

/-!
# Segments

The highlights of a line may overlap. Its segments do not: they are the pieces of the text that
are shown in one color each, the color of the last highlight that covers the piece.
-/

namespace LogSift

/-- A piece of a text in one color, or in none. -/
structure Segment where
  start : Nat
  stop : Nat
  color : Option Color
deriving DecidableEq, Repr

namespace Segment

/-- The color of a piece. -/
def colorOf (hs : List Highlight) (start stop : Nat) : Option Color :=
  (hs.reverse.find? fun h => h.span.start ≤ start && stop ≤ h.span.stop).map (·.color)

/-- The places where a highlight may begin or end, in order. -/
def bounds (text : List Char) (hs : List Highlight) : List Nat :=
  let length := Text.byteLength text
  let ends := hs.flatMap fun h => [min h.span.start length, min h.span.stop length]
  ((0 :: length :: ends).filter (Text.isBoundary · text)).mergeSort.eraseDups

/-- Puts a segment before others; it is joined to the next one of the same color. -/
def add (s : Segment) : List Segment → List Segment
  | next :: rest => if s.color = next.color then ⟨s.start, next.stop, s.color⟩ :: rest
    else s :: next :: rest
  | [] => [s]

/-- The segments between some places. -/
def between (hs : List Highlight) : List Nat → List Segment
  | start :: stop :: rest => add ⟨start, stop, colorOf hs start stop⟩ (between hs (stop :: rest))
  | _ => []

/-- The segments of a text. -/
def ofText (text : List Char) (hs : List Highlight) : List Segment := between hs (bounds text hs)

/-- A segment of a text as it is shown. -/
def render (text : List Char) (s : Segment) : String :=
  let piece := String.ofList (Text.slice s.start s.stop text)
  match s.color with
  | some c => (Style.marked c).paint piece
  | none => piece

end Segment

end LogSift
