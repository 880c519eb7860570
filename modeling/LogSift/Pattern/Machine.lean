import LogSift.Pattern.ByteSequence

/-!
# A machine that reads bytes

A pattern can be turned into a machine whose states read one byte each, from the front of a text
or from its back. Only its size matters here: how many states there are and what they take beyond
a fixed size. The states are numbered as they are built. Within a set states are shared: each one
is noted in a table, at a place that follows from what it reads and where that leads, and what was
noted there before is forgotten.
-/

namespace LogSift.Pattern

/-- The end of the text at which a machine starts. -/
inductive Direction
  | forward
  | backward
deriving DecidableEq, Repr

/-- A state that has been noted. -/
structure Slot where
  /-- The last state of the set that it belongs to. -/
  target : Nat
  /-- What it reads and where that leads. -/
  key : List Nat
  state : Nat
deriving DecidableEq, Inhabited

/-- A machine as far as it is built. -/
structure Machine where
  /-- The number of states. -/
  states : Nat
  /-- What the states take beyond their fixed size, in bytes. -/
  extra : Nat
  /-- The states that have been noted. -/
  slots : Array Slot

namespace Machine

/-- The size of a state in bytes. -/
def stateSize : Nat := 32

/-- The size of one of several ways out of a state. -/
def waySize : Nat := 4

/-- The size of a range of bytes that a state reads, if there may be several. -/
def rangeSize : Nat := 8

/-- The most bytes a machine may take. -/
def limit : Nat := 10 * 1024 * 1024

/-- No states yet. -/
def start : Direction → Machine
  | .forward => ⟨0, 0, Array.replicate 10000 default⟩
  | .backward => ⟨0, 0, Array.replicate 1000 default⟩

/-- Is the machine larger than allowed? -/
def isOver (m : Machine) : Bool := limit < m.states * stateSize + m.extra

/-- Takes more room for the states there are. -/
def grow (extra : Nat) (m : Machine) : Machine := { m with extra := m.extra + extra }

/-- One more state. -/
def add (extra : Nat) (m : Machine) : Machine :=
  { m with states := m.states + 1, extra := m.extra + extra }

/-- Some more states of the fixed size. -/
def addMany (count : Nat) (m : Machine) : Machine := { m with states := m.states + count }

/-! ## Sets -/

/-- The place where a state is noted. -/
def place (m : Machine) (key : List Nat) : Nat :=
  let mixed : UInt64 :=
    key.foldl (fun h n => (h ^^^ n.toUInt64) * 0x100000001B3) 0xCBF29CE484222325
  mixed.toNat % m.slots.size

/-- The state for a key: the one that is noted, or else a new one. -/
def shared (target : Nat) (key : List Nat) (extra : Nat) (m : Machine) : Machine × Nat :=
  let place := m.place key
  let noted := m.slots.getD place default
  if noted.target = target && noted.key = key then (m, noted.state)
  else
    ({ m with
        states := m.states + 1
        extra := m.extra + extra
        slots := m.slots.setIfInBounds place ⟨target, key, m.states⟩ },
      m.states)

/-- A state that reads the first bytes of some sequences in increasing order, after the states
that read their further bytes. A sequence has at most `depth` places. -/
def readFirst (target : Nat) : Nat → List ByteSequence → Machine → Machine × Nat
  | 0, _, m => (m, target)
  | depth + 1, sequences, m =>
    let groups := sequences.splitBy fun a b => a.head? = b.head?
    let (m, key) := groups.foldl
      (fun (m, key) group =>
        let (lo, hi) := (group.headD []).headD (0, 0)
        let tails := group.map List.tail
        let (m, next) :=
          if tails.all List.isEmpty then (m, target) else readFirst target depth tails m
        (m, next :: hi :: lo :: key))
      (m, [])
    shared target key.reverse (groups.length * rangeSize) m

/-- The states that read one sequence from its back, and are shared with other sequences as far
as its front agrees with theirs. -/
def readBack (target : Nat) (sequence : ByteSequence) (m : Machine) : Machine :=
  (sequence.foldl (fun (m, next) (lo, hi) => shared target [next, lo, hi] 0 m) (m, target)).1

/-- A set beyond ASCII. -/
def addSequences (d : Direction) (sequences : List ByteSequence) (m : Machine) : Machine :=
  match d with
  | .forward => (readFirst m.states 4 sequences (m.add 0)).1
  | .backward =>
    sequences.foldl (fun acc s => (readBack (m.states + 1) s acc).grow waySize)
      ((m.add 0).add 0)

/-- A set. -/
def addSet (d : Direction) (s : CharSet) (m : Machine) : Machine :=
  if s.isAscii then (m.add 0).add (s.ranges.length * rangeSize)
  else m.addSequences d (ByteSequence.ofSet s)

/-! ## Words -/

/-- Words in a list cut where one of them is at its end; one that adds nothing is left out. -/
def cutWords (words : List (List Nat)) : List (List (List Nat)) :=
  let (done, open_) := words.foldl
    (fun (done, open_) word =>
      if word.isEmpty then
        if open_.isEmpty && !done.isEmpty && done.all List.isEmpty then (done, open_)
        else (open_ :: done, [])
      else (done, open_ ++ [word]))
    ([], [])
  (open_ :: done).reverse

/-- Words as branches that share their fronts. `fuel` bounds the length of a word. -/
def addWords : Nat → List (List Nat) → Machine → Machine
  | 0, _, m => m
  | fuel + 1, words, m =>
    let chunks := cutWords words
    let m := chunks.foldl
      (fun m chunk =>
        let firsts := (chunk.filterMap List.head?).eraseDups
        let m := firsts.foldl
          (fun m b =>
            let tails := (chunk.filter (·.head? = some b)).map List.tail
            if tails.all List.isEmpty then m else addWords fuel tails m)
          m
        match firsts.length with
        | 0 => m
        | 1 => m.add 0
        | n => m.add (n * rangeSize))
      m
    m.add ((chunks.countP (!·.isEmpty) + chunks.length - 1) * waySize)

end Machine

end LogSift.Pattern
