import LogSift.Pattern.Branches
import LogSift.Pattern.Machine

/-!
# The size of a compiled pattern

A pattern is too large if the machine that reads a text from its front or the one that reads it
from its back takes more than ten megabytes. `Node.build` adds the states of a node to a machine.
Repetitions are written out, and no more copies are made once the machine is too large.
-/

namespace LogSift.Pattern

namespace Node

/-- The fewest characters that a node matches, if it matches anything. -/
def fewest? : Node → Option Nat
  | empty => some 0
  | set s => if s.ranges.isEmpty then none else some 1
  | look _ => some 0
  | repeated e least _ _ => e.fewest?.map (· * least)
  | capture _ _ e => e.fewest?
  | seq a b => do return (← a.fewest?) + (← b.fewest?)
  | alt a b => do return min (← a.fewest?) (← b.fewest?)

/-- Does a node match nothing but at an end of the text? -/
def isAnchored (anchor : Look) : Node → Bool
  | look l => l = anchor
  | repeated e least _ _ => 0 < least && e.isAnchored anchor
  | capture _ _ e => e.isAnchored anchor
  | seq a b =>
    if anchor = .textStart then a.isAnchored anchor || (a.onlyEmpty && b.isAnchored anchor)
    else b.isAnchored anchor || (b.onlyEmpty && a.isAnchored anchor)
  | alt a b => a.isAnchored anchor && b.isAnchored anchor
  | _ => false

/-- The bytes of a node that is nothing but characters. -/
def word? (n : Node) : Option (List Nat) :=
  if n.parts.isEmpty then none
  else (n.parts.mapM single?).map fun cs => cs.flatMap ByteSequence.bytes

/-- Where a node stands among branches. -/
inductive Place
  /-- It is the first one, or there are no others. -/
  | first
  | second
  | later
deriving DecidableEq, Repr

/-- What follows a node on account of its place: after the second branch the states that part and
join the branches, and after a later one a way to it. -/
def Place.finish : Place → Machine → Machine
  | first, m => m
  | second, m => (m.add (2 * Machine.waySize)).add 0
  | later, m => m.grow Machine.waySize

/-- Builds something several times, as long as there is room. -/
def buildCopies : Nat → (Machine → Machine) → Machine → Machine
  | 0, _, m => m
  | n + 1, build, m => if m.isOver then m else buildCopies n build (build m)

open Machine (waySize)

/-- Adds the states of a node. -/
def build (d : Direction) : Place → Node → Machine → Machine
  | place, empty, m => place.finish (m.add 0)
  | place, set s, m =>
    place.finish (match (set s).single? with
      | some n => m.addMany (ByteSequence.bytes n).length
      | none => m.addSet d s)
  | place, look _, m => place.finish (m.add 0)
  | place, capture _ _ e, m =>
    place.finish (match d with
      | .forward => (build d .first e (m.add 0)).add 0
      | .backward => build d .first e m)
  | place, seq a b, m =>
    place.finish (match d with
      | .forward => build d .first b (build d .first a m)
      | .backward => build d .first a (build d .first b m))
  | .first, alt a b, m =>
    match (alt a b).branches.mapM word? with
    | some words =>
      let words := if d = .forward then words else words.map List.reverse
      (m.add 0).addWords (words.foldl (fun n w => max n w.length) 1) words
    | none => build d .second b (build d .first a m)
  | place, alt a b, m => build d .later b (place.finish (build d .first a m))
  | place, repeated e least most _, m =>
    place.finish (match least, most with
      | 0, none =>
        if (e.fewest?.getD 0) = 0 then
          (((build d .first e m).add (2 * waySize)).add (2 * waySize)).add 0
        else build d .first e (m.add (2 * waySize))
      | n, none => (buildCopies n (build d .first e) m).add (2 * waySize)
      | 0, some 1 => (build d .first e (m.add (2 * waySize))).add 0
      | n, some most =>
        if n = most then buildCopies n (build d .first e) m
        else
          buildCopies (most - n) (fun m => build d .first e (m.add (2 * waySize)))
            ((if n = 0 then m.add 0 else buildCopies n (build d .first e) m).add 0))

/-- The machine of a node. One that may start anywhere first skips bytes, and one that reads from
the front notes where the match starts and ends. -/
def machine (d : Direction) (n : Node) : Machine :=
  let anchor := match d with
    | .forward => Look.textStart
    | .backward => .textEnd
  let m := Machine.start d
  let m := if n.isAnchored anchor then m.add 0
    else ((m.add (2 * waySize)).add 0).add Machine.rangeSize
  match d with
  | .forward => ((build d .first n (m.add 0)).add 0).add 0
  | .backward => (build d .first n m).add 0

/-- Is the pattern small enough? -/
def fits (n : Node) : Bool := !(n.machine .forward).isOver && !(n.machine .backward).isOver

end Node

end LogSift.Pattern
