/-!
# Sets of characters

A `CharSet` lists closed ranges of code points in increasing order. `insertRange` keeps the
list ordered and joins what touches, so union and complement need no separate sorting pass.
`contains` does not depend on the order. A table is written as text, one range a word
(`41-5A 61-7A AA`), and read by `CharSet.ofText`.
-/

namespace LogSift

/-- A set of code points, as closed ranges in increasing order. -/
structure CharSet where
  /-- First and last code point of each range. -/
  ranges : List (Nat × Nat)
deriving DecidableEq, Inhabited

namespace CharSet

/-- The largest code point. -/
def top : Nat := 0x10FFFF

/-- The set without members. -/
def empty : CharSet := ⟨[]⟩

/-- Does the set hold the code point? -/
def containsCode (s : CharSet) (n : Nat) : Bool :=
  s.ranges.any fun r => r.1 ≤ n && n ≤ r.2

/-- Does the set hold the character? -/
def contains (s : CharSet) (c : Char) : Bool := s.containsCode c.toNat

/-- One more range in an ordered list; ranges that overlap or touch are joined. -/
def insertRange (lo hi : Nat) : List (Nat × Nat) → List (Nat × Nat)
  | [] => [(lo, hi)]
  | (a, b) :: rest =>
    if hi + 1 < a then (lo, hi) :: (a, b) :: rest
    else if b + 1 < lo then (a, b) :: insertRange lo hi rest
    else insertRange (min lo a) (max hi b) rest

/-- The code points from `lo` to `hi`. -/
def range (lo hi : Nat) : CharSet := if lo ≤ hi then ⟨[(lo, hi)]⟩ else empty

/-- One character. -/
def single (c : Char) : CharSet := range c.toNat c.toNat

/-- What either set holds. -/
def union (s t : CharSet) : CharSet :=
  ⟨t.ranges.foldr (fun r acc => insertRange r.1 r.2 acc) s.ranges⟩

/-- What any of the sets holds. -/
def unions (sets : List CharSet) : CharSet := sets.foldr (fun s acc => acc.union s) empty

/-- The gaps between the ranges, from `start` up to `last`. -/
def gaps (start last : Nat) : List (Nat × Nat) → List (Nat × Nat)
  | [] => if start ≤ last then [(start, last)] else []
  | (a, b) :: rest =>
    if start < a then (start, a - 1) :: gaps (b + 1) last rest else gaps (b + 1) last rest

/-- What the set does not hold among the code points up to `last`. -/
def complUpTo (last : Nat) (s : CharSet) : CharSet := ⟨gaps 0 last s.ranges⟩

/-- What the set does not hold. -/
def compl (s : CharSet) : CharSet := s.complUpTo top

/-- What both sets hold. -/
def inter (s t : CharSet) : CharSet := (s.compl.union t.compl).compl

/-- What the first set holds and the second does not. -/
def diff (s t : CharSet) : CharSet := (s.compl.union t).compl

/-- What exactly one of the sets holds. -/
def symmDiff (s t : CharSet) : CharSet := (s.union t).diff (s.inter t)

/-- No member lies beyond ASCII. -/
def isAscii (s : CharSet) : Bool := s.ranges.all fun r => r.2 ≤ 0x7F

/-! ## Reading a table -/

/-- What a table's reader holds: the ranges so far, the start of a range whose end is being
read, and the number being read. -/
structure TableReader where
  /-- Ranges read so far, last one first. -/
  done : List (Nat × Nat)
  /-- Start of the current range, once its dash has been read. -/
  start : Option Nat
  /-- The number being read, if a digit of it has been seen. -/
  value : Option Nat

namespace TableReader

/-- The value of a hexadecimal digit in upper case. -/
def digit (c : Char) : Nat := if c.isDigit then c.toNat - 48 else c.toNat - 55

/-- The end of a word closes its range. -/
def close (r : TableReader) : TableReader :=
  match r.start, r.value with
  | some lo, some hi => ⟨(lo, hi) :: r.done, none, none⟩
  | none, some n => ⟨(n, n) :: r.done, none, none⟩
  | _, none => r

/-- Reads one character. -/
def step (r : TableReader) (c : Char) : TableReader :=
  if c = ' ' then r.close
  else if c = '-' then ⟨r.done, r.value, none⟩
  else ⟨r.done, r.start, some (r.value.getD 0 * 16 + digit c)⟩

end TableReader

/-- The set a table's text lists. -/
def ofText (text : String) : CharSet :=
  ⟨((text.toList.foldl TableReader.step ⟨[], none, none⟩).close.done).reverse⟩

end CharSet

end LogSift
