/-!
# A permuted congruential generator

The state is a number of 128 bits that each step multiplies and adds to. A word of the output
is made of both halves of the state, rotated by its highest bits. A seed of 64 bits is spread over
the state by a smaller generator of the same kind.
-/

namespace LogSift

/-- The state of the generator. -/
structure Permuted where
  state : Nat
  increment : Nat
deriving DecidableEq, Repr

namespace Permuted

/-- How many numbers have 32 bits. -/
def size32 : Nat := 0x100000000

/-- How many numbers have 64 bits. -/
def size64 : Nat := size32 * size32

/-- How many numbers have 128 bits. -/
def size128 : Nat := size64 * size64

/-- A word rotated to the right. -/
def rotate64 (x : UInt64) (n : Nat) : UInt64 :=
  if n = 0 then x else (x >>> .ofNat n) ||| (x <<< .ofNat (64 - n))

/-- A word of 32 bits rotated to the right. -/
def rotate32 (x : UInt32) (n : Nat) : UInt32 :=
  if n = 0 then x else (x >>> .ofNat n) ||| (x <<< .ofNat (32 - n))

/-- The next state. -/
def step (g : Permuted) : Permuted :=
  { g with
    state := (g.state * 0x2360ED051FC65DA44385DF649FCCF645 + g.increment) % size128 }

/-- The next word, as a number. -/
def word64 (g : Permuted) : Nat × Permuted :=
  let g := g.step
  let mixed : UInt64 := .ofNat (g.state / size64) ^^^ .ofNat g.state
  ((rotate64 mixed (g.state / Nat.pow 2 122)).toNat, g)

/-- The low half of the next word. -/
def word32 (g : Permuted) : Nat × Permuted :=
  let (w, g) := g.word64
  (w % size32, g)

/-- The words that a seed is spread over. -/
def spread : Nat → UInt64 → List UInt32
  | 0, _ => []
  | n + 1, seed =>
    let next := seed * 6364136223846793005 + 11634580027462260723
    let mixed := (((next >>> 18) ^^^ next) >>> 27).toUInt32
    rotate32 mixed (next >>> 59).toNat :: spread n next

/-- The number that some words make, the lowest first. -/
def join (words : List UInt32) : Nat := words.foldr (fun w n => w.toNat + size32 * n) 0

/-- The generator of a seed. -/
def ofSeed (seed : Nat) : Permuted :=
  let words := spread 8 (.ofNat seed)
  let increment := join (words.drop 4) ||| 1
  step ⟨(join (words.take 4) + increment) % size128, increment⟩

/-- A number below a bound: the share of the bound that a word is of its own bound. If the part
that this cuts off is large, another word decides about rounding up. -/
def share (size bound : Nat) (word : Permuted → Nat × Permuted) (g : Permuted) : Nat × Permuted :=
  let (w, g) := word g
  let cut := w * bound % size
  if size - bound < cut then
    let (v, g) := word g
    (w * bound / size + (cut + v * bound / size) / size, g)
  else (w * bound / size, g)

/-- A number below a bound, from half a word. -/
def small (bound : Nat) (g : Permuted) : Nat × Permuted := share size32 bound word32 g

/-- A number below a bound, from a word. -/
def large (bound : Nat) (g : Permuted) : Nat × Permuted := share size64 bound word64 g

/-- Is the next word below a bound? -/
def isBelow (bound : Nat) (g : Permuted) : Bool × Permuted :=
  let (w, g) := g.word64
  (w < bound, g)

end Permuted

end LogSift
