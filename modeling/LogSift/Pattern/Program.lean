import LogSift.Pattern.Node

/-!
# Programs for patterns

A node is compiled to a list of instructions. Control falls through to the next instruction
unless an instruction says otherwise, and of two ways to go on the first is preferred.
`emit n base` is the code of `n` placed at address `base`; it has `width n` instructions
wherever it is placed, and control leaves it at its end.

A starred node that can match the empty text is compiled as an optional plus: that keeps the
order in which ways to go on are tried.
-/

namespace LogSift.Pattern

/-- One instruction. -/
inductive Inst
  /-- Consumes a character of the set. -/
  | take (s : CharSet)
  /-- Goes on if the position passes the test. -/
  | look (l : Look)
  /-- Notes the position in a slot. -/
  | save (slot : Nat)
  | jump (target : Nat)
  /-- Tries two addresses in this order. -/
  | fork (first second : Nat)
deriving DecidableEq, Inhabited

namespace Node

/-- The number of instructions of the optional rounds of a repetition. -/
def roundsWidth (body least : Nat) : Option Nat → Nat
  | none => if least = 0 then body + 2 else 1
  | some most => (most - least) * (body + 1)

/-- The number of instructions of a node's code. -/
def width : Node → Nat
  | empty => 0
  | set _ => 1
  | look _ => 1
  | repeated e least most _ => least * e.width + roundsWidth e.width least most
  | capture _ _ e => e.width + 2
  | seq a b => a.width + b.width
  | alt a b => a.width + b.width + 2

/-- A fork between going on with the body and leaving it. -/
def choice (greedy : Bool) (body leave : Nat) : Inst :=
  if greedy then .fork body leave else .fork leave body

/-- Code placed several times in a row, the first time at `base`. -/
def copies (times : Nat) (size : Nat) (code : Nat → List Inst) (base : Nat) : List Inst :=
  (List.range times).flatMap fun i => code (base + i * size)

/-- The code of a node at an address. -/
def emit : Node → Nat → List Inst
  | empty, _ => []
  | set s, _ => [.take s]
  | look l, _ => [.look l]
  | capture index _ e, base =>
    .save (2 * index) :: e.emit (base + 1) ++ [.save (2 * index + 1)]
  | seq a b, base => a.emit base ++ b.emit (base + a.width)
  | alt a b, base =>
    .fork (base + 1) (base + a.width + 2) :: a.emit (base + 1)
      ++ .jump (base + a.width + b.width + 2) :: b.emit (base + a.width + 2)
  | repeated e least most greedy, base =>
    let w := e.width
    match most with
    | none =>
      if least = 0 then
        let leave := base + w + 2
        choice greedy (base + 1) leave :: e.emit (base + 1) ++
          [if e.nullable then choice greedy (base + 1) leave else .jump base]
      else
        copies least w e.emit base ++
          [choice greedy (base + (least - 1) * w) (base + least * w + 1)]
    | some most =>
      let start := base + least * w
      let leave := start + (most - least) * (w + 1)
      copies least w e.emit base ++
        copies (most - least) (w + 1)
          (fun here => choice greedy (here + 1) leave :: e.emit (here + 1)) start

end Node

/-- A compiled pattern: its code and the names of its groups. The address after the last
instruction is the end of the program, and reaching it is a match. -/
structure Program where
  code : Array Inst
  /-- The number and name of each capturing group. -/
  groups : List (Nat × Option String)

/-- The program of a node. -/
def Node.program (n : Node) : Program := ⟨(n.emit 0).toArray, n.captures⟩

end LogSift.Pattern
