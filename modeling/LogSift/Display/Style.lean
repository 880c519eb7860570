import LogSift.Color
import LogSift.Text.Find

/-!
# Styles of a terminal

A style is switched on by an escape sequence before a text and off by another after it. Where the
text itself switches styles off, the style is switched on again.
-/

namespace LogSift

/-- A style of text. -/
inductive Style
  | dimmed
  | boldWhite
  | boldRed
  | cyan
  | yellow
  /-- Black on a color. -/
  | marked (background : Color)
deriving DecidableEq, Repr

namespace Style

/-- The parameters of a style's sequence. -/
def code : Style → String
  | dimmed => "2"
  | boldWhite => "1;37"
  | boldRed => "1;31"
  | cyan => "36"
  | yellow => "33"
  | marked c => s!"48;2;{c.red.toNat};{c.green.toNat};{c.blue.toNat};30"

/-- The sequence that switches a style on. -/
def on (s : Style) : String := "\x1b[" ++ s.code ++ "m"

/-- The sequence that switches all styles off. -/
def off : String := "\x1b[0m"

/-- A text in a style. -/
def paint (s : Style) (text : String) : String :=
  let cs := text.toList
  let inner := Text.replaceAll off.toList (off ++ s.on).toList cs.length cs
  s.on ++ String.ofList inner ++ off

/-- A text in a style, if styles are wanted. -/
def paintIf (color : Bool) (s : Style) (text : String) : String :=
  if color then s.paint text else text

end Style

end LogSift
