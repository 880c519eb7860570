import LogSift.Line

/-!
# Addresses

An address selects lines by a range of numbers, by a pattern, or by both; without either it
selects every line.
-/

namespace LogSift

/-- A range of line numbers and a pattern, each of which may be missing. -/
structure Address where
  range : Option (Nat × Nat)
  pattern : Option Pattern

namespace Address

/-- Every line. -/
def all : Address := ⟨none, none⟩

/-- The lines with numbers from `first` to `last`. -/
def lines (first last : Nat) : Address := ⟨some (first, last), none⟩

/-- The lines that hold a match. -/
def matching (p : Pattern) : Address := ⟨none, some p⟩

/-- Is the line's number in the range? -/
def inRange (a : Address) (l : Line) : Bool :=
  match a.range with
  | some (first, last) => first ≤ l.number && l.number ≤ last
  | none => true

/-- Does the line hold a match of the pattern? -/
def patternMatches (a : Address) (l : Line) : Bool :=
  match a.pattern with
  | some p => p.hasMatch l.text.toList
  | none => true

/-- Is the line selected? -/
def selects (a : Address) (l : Line) : Bool := a.inRange l && a.patternMatches l

/-- Is the line selected by an address that may be missing? A missing one selects every line. -/
def selects? (a : Option Address) (l : Line) : Bool := a.all (·.selects l)

end Address

end LogSift
