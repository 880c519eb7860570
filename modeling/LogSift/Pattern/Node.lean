import LogSift.CharSet

/-!
# What a pattern means

A `Node` is a pattern after its flags have had their effect: sets of characters, positions,
repetitions, captures. `Node.repetition` is the only way repetitions are built: one of
something that consumes no characters needs at most one round.
-/

namespace LogSift.Pattern

/-- A kind of word boundary. -/
inductive Boundary
  | any | none | start | finish | startHalf | finishHalf
deriving DecidableEq, Repr

/-- A test of the position. -/
inductive Look
  | textStart
  | textEnd
  /-- Start of a line; `crlf` is whether a carriage return counts as a line end. -/
  | lineStart (crlf : Bool)
  | lineEnd (crlf : Bool)
  /-- A boundary between words of Unicode or of ASCII characters. -/
  | word (kind : Boundary) (unicode : Bool)
deriving DecidableEq, Repr

/-- The meaning of a pattern. -/
inductive Node
  /-- Matches the empty text. -/
  | empty
  /-- Matches one character of the set. -/
  | set (s : CharSet)
  | look (l : Look)
  | repeated (inner : Node) (least : Nat) (most : Option Nat) (greedy : Bool)
  | capture (index : Nat) (name : Option String) (inner : Node)
  | seq (first second : Node)
  /-- The first branch is preferred. -/
  | alt (first second : Node)
deriving DecidableEq, Inhabited

namespace Node

/-- Does the node match nothing but the empty text? -/
def onlyEmpty : Node → Bool
  | empty => true
  | set _ => false
  | look _ => true
  | repeated e _ most _ => e.onlyEmpty || most = some 0
  | capture _ _ e => e.onlyEmpty
  | seq a b => a.onlyEmpty && b.onlyEmpty
  | alt a b => a.onlyEmpty && b.onlyEmpty

/-- Can the node match the empty text, as far as its shape tells? -/
def nullable : Node → Bool
  | empty => true
  | set _ => false
  | look _ => true
  | repeated e least _ _ => e.nullable || least = 0
  | capture _ _ e => e.nullable
  | seq a b => a.nullable && b.nullable
  | alt a b => a.nullable || b.nullable

/-- The number of nodes. -/
def size : Node → Nat
  | repeated e _ _ _ => e.size + 1
  | capture _ _ e => e.size + 1
  | seq a b => a.size + b.size + 1
  | alt a b => a.size + b.size + 1
  | _ => 1

/-- One node after another; the empty node adds nothing. -/
def join (first second : Node) : Node :=
  if first = empty then second else if second = empty then first else seq first second

/-- A repetition with no more rounds than can make a difference. -/
def repetition (inner : Node) (least : Nat) (most : Option Nat) (greedy : Bool) : Node :=
  let least := if inner.onlyEmpty then min least 1 else least
  let most := if inner.onlyEmpty then some ((most.map (min · 1)).getD 1) else most
  if most = some 0 then empty
  else if least = 1 && most = some 1 then inner
  else repeated inner least most greedy

/-- The names of the capturing groups by their numbers. -/
def captures : Node → List (Nat × Option String)
  | capture index name e => (index, name) :: e.captures
  | repeated e _ _ _ => e.captures
  | seq a b => a.captures ++ b.captures
  | alt a b => a.captures ++ b.captures
  | _ => []

end Node

end LogSift.Pattern
