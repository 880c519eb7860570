import LogSift.Unicode.Query

/-!
# What a pattern says

`Expr` is the structure of a pattern as it is written: groups, branches, repetitions, inline
flags and bracketed classes, before any flag has had its effect. Sequences and alternatives
are binary and lean to the right; a sequence of one is that one. `Expr.depth` counts nesting the
way the limit on it is stated: a whole sequence, a whole list of alternatives and a whole list
of class members count once.
-/

namespace LogSift.Pattern

/-- A flag of the pattern language. -/
inductive Flag
  /-- `i`: letters match either case. -/
  | ignoreCase
  /-- `m`: `^` and `$` match at line ends. -/
  | multiLine
  /-- `s`: `.` matches a line feed. -/
  | dotAll
  /-- `U`: repetitions are lazy, and greedy with `?`. -/
  | swapGreed
  /-- `u`: classes and boundaries know all of Unicode. -/
  | unicode
  /-- `R`: a carriage return and a line feed end a line together. -/
  | crlf
  /-- `x`: blanks and comments do not count. -/
  | verbose
deriving DecidableEq, Repr

/-- Flags set and cleared together, in the order they are written. -/
abbrev FlagChange := List (Flag × Bool)

/-- A character, and whether it was written as a byte, with two hexadecimal digits. -/
structure Literal where
  /-- The character. -/
  char : Char
  /-- Written as `\x` and two digits. -/
  asByte : Bool
deriving DecidableEq, Repr

/-- A position a pattern can ask for. -/
inductive Assertion
  | startLine | endLine | startText | endText
  | wordBoundary | notWordBoundary | wordStart | wordEnd | wordStartHalf | wordEndHalf
deriving DecidableEq, Repr

/-- The classes with a one-letter escape. -/
inductive PerlClass
  | digit | space | word
deriving DecidableEq, Repr

/-- The classes with a name between `[:` and `:]`. -/
inductive AsciiClass
  | alnum | alpha | ascii | blank | cntrl | digit | graph | lower | print | punct | space
  | upper | word | xdigit
deriving DecidableEq, Repr

/-- The operators between the sets of a bracketed class. -/
inductive SetOp
  | intersection | difference | symmetricDifference
deriving DecidableEq, Repr

/-- What one unit of a pattern matches. -/
inductive Atom
  | literal (l : Literal)
  | dot
  | assertion (a : Assertion)
  | perl (kind : PerlClass) (negated : Bool)
  | unicode (query : Unicode.Query) (negated : Bool)
deriving DecidableEq, Repr

/-- The inside of a bracketed class. -/
inductive ClassSet
  | empty
  | literal (l : Literal)
  | range (first last : Literal)
  | ascii (kind : AsciiClass) (negated : Bool)
  | perl (kind : PerlClass) (negated : Bool)
  | unicode (query : Unicode.Query) (negated : Bool)
  /-- A class inside the class. -/
  | nested (negated : Bool) (inner : ClassSet)
  /-- One more member. -/
  | both (first second : ClassSet)
  | op (kind : SetOp) (left right : ClassSet)
deriving DecidableEq, Repr

/-- A pattern as written. -/
inductive Expr
  | empty
  /-- Flags for the rest of the enclosing group. -/
  | flags (change : FlagChange)
  | atom (a : Atom)
  | bracket (negated : Bool) (set : ClassSet)
  | repeated (inner : Expr) (least : Nat) (most : Option Nat) (greedy : Bool)
  | capture (index : Nat) (name : Option String) (inner : Expr)
  /-- A group that captures nothing, with flags of its own. -/
  | group (change : FlagChange) (inner : Expr)
  | seq (first second : Expr)
  | alt (first second : Expr)
deriving DecidableEq, Repr

namespace ClassSet

/-- The members written so far, the last one first, as one set. -/
def ofMembers : List ClassSet → ClassSet
  | [] => empty
  | [s] => s
  | s :: rest => both (ofMembers rest) s

/-- How deep classes nest; a list of members counts as one level, not one for each member. -/
def depth (inList : Bool) : ClassSet → Nat
  | both a b => (if inList then 0 else 1) + max (depth true a) (depth false b)
  | nested _ s => 1 + depth false s
  | op _ a b => 1 + max (depth false a) (depth false b)
  | _ => 0

end ClassSet

namespace Expr

/-- The parts of a sequence written so far, the last one first, as one expression. -/
def ofItems : List Expr → Expr
  | [] => empty
  | last :: rest => rest.foldl (fun acc e => seq e acc) last

/-- The branches written so far, the last one first, as one expression. -/
def ofBranches : List Expr → Expr
  | [] => empty
  | last :: rest => rest.foldl (fun acc e => alt e acc) last

/-- Can a repetition not apply to the expression? -/
def isUnrepeatable : Expr → Bool
  | empty => true
  | flags _ => true
  | _ => false

/-- The list an expression is a part of: nested parts of one list are one level. -/
inductive Place
  | alone | inSeq | inAlt
deriving DecidableEq, Repr

/-- How deep groups, classes and repetitions nest. -/
def depth (place : Place) : Expr → Nat
  | bracket _ s => 1 + s.depth false
  | repeated e _ _ _ => 1 + depth .alone e
  | capture _ _ e => 1 + depth .alone e
  | group _ e => 1 + depth .alone e
  | seq a b => (if place = .inSeq then 0 else 1) + max (depth .alone a) (depth .inSeq b)
  | alt a b => (if place = .inAlt then 0 else 1) + max (depth .alone a) (depth .inAlt b)
  | _ => 0

end Expr

end LogSift.Pattern
