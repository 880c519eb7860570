import LogSift.Pattern.Program
import LogSift.Unicode.Query

/-!
# Searching a text

A search tries the ways through a program in order of preference and takes the first that
ends in a match. A thread that has failed at an address and a place would fail there again,
whatever it has noted on the way, so each pair is tried once: `Seen` remembers them, over all
starting places of one search. Places are byte offsets, and only starts of characters are
places.
-/

namespace LogSift.Pattern

/-- A place in a text. -/
structure Cursor where
  /-- The character before it. -/
  before : Option Char
  /-- The text after it. -/
  rest : List Char
  /-- Its offset in bytes. -/
  offset : Nat
  /-- The number of characters after it. -/
  left : Nat

namespace Cursor

/-- The start of a text. -/
def ofText (cs : List Char) : Cursor := ⟨none, cs, 0, cs.length⟩

/-- The place after the next character, if there is one. -/
def next? (c : Cursor) : Option (Char × Cursor) :=
  match c.rest with
  | [] => none
  | ch :: rest => some (ch, ⟨some ch, rest, c.offset + ch.utf8Size, c.left - 1⟩)

end Cursor

/-- Is the character one that words are made of? -/
def isWordChar (unicode : Bool) (c : Option Char) : Bool :=
  match c with
  | none => false
  | some c =>
    if c.toNat < 128 then c.isAlphanum || c = '_'
    else unicode && Unicode.word.get.contains c

/-- Does a place between two characters pass a test? -/
def Look.passes (l : Look) (before after : Option Char) : Bool :=
  match l with
  | .textStart => before.isNone
  | .textEnd => after.isNone
  | .lineStart crlf =>
    before.isNone || before = some '\n' ||
      (crlf && before = some '\r' && after != some '\n')
  | .lineEnd crlf =>
    after.isNone || (crlf && after = some '\r') ||
      (after = some '\n' && !(crlf && before = some '\r'))
  | .word kind unicode =>
    let b := isWordChar unicode before
    let a := isWordChar unicode after
    match kind with
    | .any => b != a
    | .none => b = a
    | .start => !b && a
    | .finish => b && !a
    | .startHalf => !b
    | .finishHalf => !a

/-- A way through a program: where it stands in the program and in the text, and the slots it
has filled, the last one first. -/
structure Thread where
  address : Nat
  place : Cursor
  saves : List (Nat × Nat)

/-- How a thread goes on after an instruction, the preferred way first. -/
def Inst.ways (i : Inst) (t : Thread) : List Thread :=
  match i with
  | .take s =>
    match t.place.next? with
    | some (c, place) => if s.contains c then [{ t with address := t.address + 1, place }] else []
    | none => []
  | .look l =>
    if l.passes t.place.before t.place.rest.head? then [{ t with address := t.address + 1 }]
    else []
  | .save slot =>
    [{ t with address := t.address + 1, saves := (slot, t.place.offset) :: t.saves }]
  | .jump target => [{ t with address := target }]
  | .fork first second => [{ t with address := first }, { t with address := second }]

/-- The pairs of an address and a place that have been tried. The places of a search are rows,
and the addresses tried at a place are bits in the chunks of its row; chunks and rows that are
not there hold none. -/
structure Seen where
  /-- The number of characters after the first place. -/
  width : Nat
  rows : Array (Array Nat)

namespace Seen

/-- The number of addresses in a chunk. -/
def chunk : Nat := 60

/-- Nothing tried, from a place with `n` characters after it. -/
def empty (n : Nat) : Seen := ⟨n, #[]⟩

/-- The row of a place. -/
def row (s : Seen) (t : Thread) : Nat := s.width - t.place.left

/-- Has the thread's pair been tried? -/
def has (s : Seen) (t : Thread) : Bool :=
  ((s.rows.getD (s.row t) #[]).getD (t.address / chunk) 0).testBit (t.address % chunk)

/-- An array with at least `n` entries. -/
def padded {α : Type} (fill : α) (xs : Array α) (n : Nat) : Array α :=
  if xs.size < n then xs ++ Array.replicate (n - xs.size) fill else xs

/-- Marks the thread's pair as tried. -/
def mark (s : Seen) (t : Thread) : Seen :=
  let row := s.row t
  let bit := 1 <<< (t.address % chunk)
  { s with rows := (padded #[] s.rows (row + 1)).modify row fun chunks =>
      (padded 0 chunks (t.address / chunk + 1)).modify (t.address / chunk) (· ||| bit) }

end Seen

/-- Follows threads in order of preference until one reaches the end of the program. `fuel`
bounds the number of threads looked at. -/
def explore (code : Array Inst) : Nat → Seen → List Thread → Seen × Option Thread
  | 0, seen, _ => (seen, none)
  | _, seen, [] => (seen, none)
  | fuel + 1, seen, t :: rest =>
    if seen.has t then explore code fuel seen rest
    else
      match code[t.address]? with
      | none => (seen, some t)
      | some i => explore code fuel (seen.mark t) (i.ways t ++ rest)

/-- A span of bytes. -/
structure Span where
  start : Nat
  stop : Nat
deriving DecidableEq, Repr, Inhabited

/-- A match: its span, the place where it ends, and the slots filled on the way. -/
structure Match where
  span : Span
  stop : Cursor
  saves : List (Nat × Nat)

/-- What was noted last in a slot. -/
def Match.slot? (m : Match) (slot : Nat) : Option Nat :=
  (m.saves.find? (·.1 = slot)).map (·.2)

/-- The span of a group, if it took part in the match. -/
def Match.group? (m : Match) (index : Nat) : Option Span :=
  match m.slot? (2 * index), m.slot? (2 * index + 1) with
  | some start, some stop => some ⟨start, stop⟩
  | _, _ => none

namespace Program

/-- Enough fuel to look at every pair twice. -/
def fuel (p : Program) (left : Nat) : Nat := 2 * (p.code.size + 1) * (left + 1) + 1

/-- The first match that starts at one of `rest.length + 1` places, from the given one on. -/
def searchFrom (p : Program) (fuel : Nat) (seen : Seen) (before : Option Char)
    (offset left : Nat) (rest : List Char) : Option Match :=
  let place : Cursor := ⟨before, rest, offset, left⟩
  match explore p.code fuel seen [⟨0, place, []⟩] with
  | (_, some t) => some ⟨⟨offset, t.place.offset⟩, t.place, t.saves⟩
  | (seen, none) =>
    match rest with
    | [] => none
    | c :: rest => searchFrom p fuel seen (some c) (offset + c.utf8Size) (left - 1) rest

/-- The first match at or after a place. -/
def find? (p : Program) (c : Cursor) : Option Match :=
  searchFrom p (p.fuel c.left) (Seen.empty c.left) c.before c.offset c.left c.rest

/-- The matches from a place on. An empty match right where the last match ended does not
count, and the search goes on after the next character. `lastStop` is that end. -/
def findAll (p : Program) : Nat → Option Nat → Cursor → List Match
  | 0, _, _ => []
  | n + 1, lastStop, c =>
    match p.find? c with
    | none => []
    | some m =>
      if m.span.start = m.span.stop && lastStop = some m.span.stop then
        match c.next? with
        | none => []
        | some (_, next) =>
          match p.find? next with
          | none => []
          | some m => m :: findAll p n (some m.span.stop) m.stop
      else m :: findAll p n (some m.span.stop) m.stop

/-- All matches in a text, from left to right. -/
def allMatches (p : Program) (text : List Char) : List Match :=
  p.findAll (text.length + 2) none (Cursor.ofText text)

/-- Does the text hold a match? -/
def hasMatch (p : Program) (text : List Char) : Bool :=
  (p.find? (Cursor.ofText text)).isSome

end Program

end LogSift.Pattern
