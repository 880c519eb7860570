import LogSift.CharSet

/-!
# Characters as bytes

A range of code points comes to some byte sequences, which give a range of bytes at each place.
-/

namespace LogSift.Pattern

/-- A range of bytes, first and last, at each place. -/
abbrev ByteSequence := List (Nat × Nat)

namespace ByteSequence

/-- Where a range of code points has to be cut so that each part is a product of byte ranges;
the first part ends there. -/
def cut? (lo hi : Nat) : Option Nat :=
  if lo ≤ 0x7F && 0x7F < hi then some 0x7F
  else if lo ≤ 0x7FF && 0x7FF < hi then some 0x7FF
  else if lo ≤ 0xFFFF && 0xFFFF < hi then some 0xFFFF
  else if hi ≤ 0x7F then none
  else [64, 64 * 64, 64 * 64 * 64].findSome? fun unit =>
    if lo / unit = hi / unit then none
    else if lo % unit != 0 then some (lo / unit * unit + (unit - 1))
    else if hi % unit != unit - 1 then some (hi / unit * unit - 1)
    else none

/-- The parts of a range that are products of byte ranges; `fuel` bounds the cuts in a row. -/
def parts : Nat → Nat → Nat → List (Nat × Nat)
  | 0, lo, hi => [(lo, hi)]
  | fuel + 1, lo, hi =>
    if hi < lo then []
    else match cut? lo hi with
      | none => [(lo, hi)]
      | some c => parts fuel lo c ++ parts fuel (c + 1) hi

/-- The bytes of a code point. -/
def bytes (n : Nat) : List Nat :=
  if n < 0x80 then [n]
  else if n < 0x800 then [0xC0 + n / 64, 0x80 + n % 64]
  else if n < 0x10000 then [0xE0 + n / 4096, 0x80 + n / 64 % 64, 0x80 + n % 64]
  else [0xF0 + n / 262144, 0x80 + n / 4096 % 64, 0x80 + n / 64 % 64, 0x80 + n % 64]

/-- The sequences of a range, which leaves the surrogates out. -/
def ofRange (r : Nat × Nat) : List ByteSequence :=
  (parts 64 r.1 (min r.2 0xD7FF) ++ parts 64 (max r.1 0xE000) r.2).map fun p =>
    (bytes p.1).zip (bytes p.2)

/-- The sequences of a set, in increasing order. -/
def ofSet (s : CharSet) : List ByteSequence := s.ranges.flatMap ofRange

end ByteSequence

end LogSift.Pattern
