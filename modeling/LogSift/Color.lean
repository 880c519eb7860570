import LogSift.Pattern.Rejection
import LogSift.Text.Blank
import LogSift.Text.Hex

/-!
# Colors

A color has three channels of a byte each. It is written as `#rrggbb`, and read from that, with
an ignored alpha channel if there is one, or from a name. Spaces, underscores and hyphens in a
name do not count, nor does letter case, and `bright` means the same as `light`.
-/

namespace LogSift

/-- A color. -/
structure Color where
  red : UInt8
  green : UInt8
  blue : UInt8
deriving DecidableEq, Repr, Inhabited

/-- Why a text is not a color; each carries the text. -/
inductive Color.Fault
  | invalidHex (text : String)
  | unknownName (text : String)
deriving DecidableEq, Repr

/-- The sentence for a fault. -/
def Color.Fault.message : Color.Fault → String
  | invalidHex text => s!"invalid hex color: {text}"
  | unknownName text => s!"unknown color: {text}"

namespace Color

/-- The color of highlights as long as none is chosen. -/
def initial : Color := ⟨0, 255, 0⟩

/-- The named colors. -/
def names : List (String × Color) := [
  ("black", ⟨0, 0, 0⟩), ("white", ⟨255, 255, 255⟩), ("red", ⟨255, 0, 0⟩),
  ("green", ⟨0, 255, 0⟩), ("blue", ⟨0, 0, 255⟩), ("yellow", ⟨255, 255, 0⟩),
  ("cyan", ⟨0, 255, 255⟩), ("magenta", ⟨255, 0, 255⟩), ("orange", ⟨255, 165, 0⟩),
  ("purple", ⟨128, 0, 128⟩), ("pink", ⟨255, 192, 203⟩), ("brown", ⟨165, 42, 42⟩),
  ("gray", ⟨128, 128, 128⟩), ("grey", ⟨128, 128, 128⟩), ("darkgray", ⟨169, 169, 169⟩),
  ("lightblue", ⟨173, 216, 230⟩), ("lightgreen", ⟨144, 238, 144⟩),
  ("lightgray", ⟨211, 211, 211⟩), ("lightgrey", ⟨211, 211, 211⟩),
  ("lightyellow", ⟨255, 255, 224⟩), ("lightpink", ⟨255, 182, 193⟩),
  ("lightcyan", ⟨224, 255, 255⟩), ("lightred", ⟨255, 128, 128⟩),
  ("lightmagenta", ⟨255, 128, 255⟩)]

/-- The color of six or eight hexadecimal digits. -/
def ofHex? (cs : List Char) : Option Color :=
  match cs.mapM Text.hexValue? with
  | some [a, b, c, d, e, f] => some ⟨.ofNat (a * 16 + b), .ofNat (c * 16 + d), .ofNat (e * 16 + f)⟩
  | some [a, b, c, d, e, f, _, _] =>
    some ⟨.ofNat (a * 16 + b), .ofNat (c * 16 + d), .ofNat (e * 16 + f)⟩
  | _ => none

/-- A name in the form in which names are compared. -/
def plainName (cs : List Char) : String :=
  let kept := (cs.filter fun c => c != ' ' && c != '_' && c != '-').map Pattern.lowerAscii
  match Text.after? "bright".toList kept with
  | some base => String.ofList ("light".toList ++ base)
  | none => String.ofList kept

/-- The color a text means. -/
def ofText (text : String) : Except Fault Color :=
  let trimmed := Text.trim text.toList
  match trimmed with
  | '#' :: digits =>
    match ofHex? digits with
    | some color => .ok color
    | none => .error (.invalidHex (String.ofList trimmed))
  | _ =>
    match names.find? (·.1 = plainName trimmed) with
    | some (_, color) => .ok color
    | none => .error (.unknownName (String.ofList trimmed))

/-- Two hexadecimal digits. -/
def hexByte (b : UInt8) : List Char := [Text.hexDigit (b.toNat / 16), Text.hexDigit (b.toNat % 16)]

/-- The text of a color. -/
def toText (c : Color) : String :=
  String.ofList ('#' :: hexByte c.red ++ hexByte c.green ++ hexByte c.blue)

end Color

end LogSift
