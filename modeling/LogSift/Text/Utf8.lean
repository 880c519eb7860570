/-!
# UTF-8

A decoder takes a text byte by byte. Where the bytes are not well formed, as many of them as could
begin a character count as one malformed part: `Utf8.decode` yields `none` for it, `Utf8.lenient`
the replacement character, and `Utf8.strict?` refuses the text.
-/

namespace LogSift.Text.Utf8

/-- A character some bytes of which have been read. -/
structure Pending where
  /-- How many bytes are to come. -/
  missing : Nat
  /-- The bounds of the next byte. -/
  low : UInt8
  high : UInt8
  /-- The bits read so far. -/
  bits : Nat
deriving DecidableEq, Repr

/-- What has been decoded. -/
structure Decoder where
  /-- The characters, the last one first; `none` is a malformed part. -/
  done : List (Option Char)
  pending : Option Pending
deriving DecidableEq, Repr

namespace Decoder

/-- Before the first byte. -/
def initial : Decoder := ⟨[], none⟩

/-- The decoder after a character or a malformed part. -/
def emit (done : List (Option Char)) (c : Option Char) : Decoder := ⟨c :: done, none⟩

/-- The decoder after the first of several bytes. -/
def await (done : List (Option Char)) (missing : Nat) (low high : UInt8) (bits : Nat) : Decoder :=
  ⟨done, some ⟨missing, low, high, bits⟩⟩

/-- Takes a byte where a character starts. -/
def lead (done : List (Option Char)) (b : UInt8) : Decoder :=
  let n := b.toNat
  if n < 0x80 then emit done (some (Char.ofNat n))
  else if n < 0xC2 then emit done none
  else if n < 0xE0 then await done 1 0x80 0xBF (n - 0xC0)
  else if n = 0xE0 then await done 2 0xA0 0xBF 0
  else if n = 0xED then await done 2 0x80 0x9F 0xD
  else if n < 0xF0 then await done 2 0x80 0xBF (n - 0xE0)
  else if n = 0xF0 then await done 3 0x90 0xBF 0
  else if n < 0xF4 then await done 3 0x80 0xBF (n - 0xF0)
  else if n = 0xF4 then await done 3 0x80 0x8F 4
  else emit done none

/-- Takes a byte. -/
def push (d : Decoder) (b : UInt8) : Decoder :=
  match d.pending with
  | none => lead d.done b
  | some p =>
    if p.low ≤ b && b ≤ p.high then
      let bits := p.bits * 64 + (b.toNat - 0x80)
      if p.missing = 1 then emit d.done (some (Char.ofNat bits))
      else await d.done (p.missing - 1) 0x80 0xBF bits
    else lead (none :: d.done) b

/-- The characters after the last byte. -/
def finish (d : Decoder) : List (Option Char) :=
  (if d.pending.isSome then none :: d.done else d.done).reverse

end Decoder

/-- The characters of a text, with `none` for each malformed part. -/
def decode (bytes : List UInt8) : List (Option Char) :=
  (bytes.foldl Decoder.push Decoder.initial).finish

/-- The text, with the replacement character for each malformed part. -/
def lenient (bytes : List UInt8) : List Char := (decode bytes).map (·.getD '\ufffd')

/-- The text, if it is well formed. -/
def strict? (bytes : List UInt8) : Option (List Char) :=
  let cs := decode bytes
  if cs.all (·.isSome) then some (cs.filterMap id) else none

/-- The bytes of a text. -/
def encode (text : String) : List UInt8 := text.toUTF8.toList

end LogSift.Text.Utf8
