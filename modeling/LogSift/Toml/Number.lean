import LogSift.Toml.Node
import LogSift.Toml.Text

/-!
# TOML numbers and dates

Digits may be separated by single underscores, and a number in decimal has no zero in front. A
date has all its digits, and its parts are in range.
-/

namespace LogSift.Toml

/-! ## Digits -/

/-- The digits at the front, of which there is one at least, without the underscores between
them. -/
def digits? (isDigit : Char → Bool) : List Char → Option (List Char × List Char)
  | [] => none
  | [c] => if isDigit c then some ([c], []) else none
  | c :: d :: rest =>
    if !isDigit c then none
    else if d = '_' then (digits? isDigit rest).map fun (ds, left) => (c :: ds, left)
    else if isDigit d then (digits? isDigit (d :: rest)).map fun (ds, left) => (c :: ds, left)
    else some ([c], d :: rest)

/-- The number of some digits to a base. -/
def numberOf (base : Nat) (ds : List Char) : Nat :=
  ds.foldl (fun n c => n * base + (Text.hexValue? c).getD 0) 0

/-- The sign at the front: is it a minus sign? -/
def sign : List Char → Bool × List Char
  | '-' :: rest => (true, rest)
  | '+' :: rest => (false, rest)
  | cs => (false, cs)

/-- Digits without a zero in front. -/
def wholePart? (cs : List Char) : Option (List Char × List Char) :=
  match cs with
  | '0' :: rest => some (['0'], rest)
  | cs => digits? (·.isDigit) cs

/-! ## Numbers -/

/-- A number with a prefix for its base. -/
def prefixed? (base : Nat) (isDigit : Char → Bool) (cs : List Char) : Option (Int × List Char) := do
  let (ds, left) ← digits? isDigit cs
  let n := numberOf base ds
  if n < 0x8000000000000000 then some (n, left) else none

/-- The integer at the front. -/
def integer? (cs : List Char) : Option (Int × List Char) :=
  match cs with
  | '0' :: 'x' :: rest => prefixed? 16 (fun c => (Text.hexValue? c).isSome) rest
  | '0' :: 'o' :: rest => prefixed? 8 (fun c => '0' ≤ c && c ≤ '7') rest
  | '0' :: 'b' :: rest => prefixed? 2 (fun c => c = '0' || c = '1') rest
  | cs => do
    let (negative, rest) := sign cs
    let (ds, left) ← wholePart? rest
    let n := numberOf 10 ds
    if negative then if n ≤ 0x8000000000000000 then some (-n, left) else none
    else if n < 0x8000000000000000 then some (n, left) else none

/-- The exponent at the front. -/
def exponent? : List Char → Option (Int × List Char)
  | c :: rest =>
    if c = 'e' || c = 'E' then do
      let (negative, rest) := sign rest
      let (ds, left) ← digits? (·.isDigit) rest
      let n : Int := numberOf 10 ds
      return (if negative then -n else n, left)
    else none
  | [] => none

/-- Is a number of some digits and a power of ten too large for a float? A number of 400 digits
before the point is, and one of less than 300 is not. -/
def isHuge (ds : List Char) (exponent : Int) : Bool :=
  let kept := ds.dropWhile (· = '0')
  let size := kept.length + exponent
  if kept.isEmpty || size < 300 then false
  else if 400 < size then true
  else
    let limit := Nat.pow 2 1024 - Nat.pow 2 970
    let n := numberOf 10 kept
    let scale := Nat.pow 10 exponent.natAbs
    if exponent < 0 then limit * scale ≤ n else limit ≤ n * scale

/-- What follows the float at the front. -/
def float? (cs : List Char) : Option (List Char) := do
  let (negative, rest) := sign cs
  match rest with
  | 'i' :: 'n' :: 'f' :: left => some left
  | 'n' :: 'a' :: 'n' :: left => some left
  | _ =>
    let (whole, left) ← wholePart? rest
    let (fraction, exponent, left) ← match left with
      | '.' :: left => do
        let (fraction, left) ← digits? (·.isDigit) left
        let (exponent, left) := (exponent? left).getD (0, left)
        some (fraction, exponent, left)
      | left => do
        let (exponent, left) ← exponent? left
        some ([], exponent, left)
    if !negative && isHuge (whole ++ fraction) (exponent - fraction.length) then none else some left

/-! ## Dates -/

/-- The number of just so many digits. -/
def fixed? (count : Nat) (cs : List Char) : Option (Nat × List Char) :=
  let ds := cs.take count
  if ds.length = count && ds.all (·.isDigit) then some (numberOf 10 ds, cs.drop count) else none

/-- A number of two digits that is within bounds. -/
def part? (low high : Nat) (cs : List Char) : Option (Nat × List Char) := do
  let (n, left) ← fixed? 2 cs
  if low ≤ n && n ≤ high then some (n, left) else none

/-- What follows a character at the front. -/
def after? (c : Char) (cs : List Char) : Option (List Char) :=
  if cs.head? = some c then some cs.tail else none

/-- The number of days in a month. -/
def daysIn (year month : Nat) : Nat :=
  if month = 2 then if year % 4 = 0 && (year % 100 != 0 || year % 400 = 0) then 29 else 28
  else if [4, 6, 9, 11].contains month then 30
  else 31

/-- What follows the day at the front. -/
def day? (cs : List Char) : Option (List Char) := do
  let (year, left) ← fixed? 4 cs
  let (month, left) ← part? 1 12 (← after? '-' left)
  let (_, left) ← part? 1 (daysIn year month) (← after? '-' left)
  return left

/-- What follows the time of day at the front. -/
def time? (cs : List Char) : Option (List Char) := do
  let (_, left) ← part? 0 23 cs
  let (_, left) ← part? 0 59 (← after? ':' left)
  let (_, left) ← part? 0 60 (← after? ':' left)
  match left with
  | '.' :: c :: rest =>
    if c.isDigit then some (rest.dropWhile (·.isDigit)) else some left
  | left => some left

/-- What follows the offset of a zone at the front. -/
def offset? : List Char → Option (List Char)
  | [] => none
  | c :: rest =>
    if c = 'Z' || c = 'z' then some rest
    else if c = '+' || c = '-' then do
      let (_, left) ← part? 0 23 rest
      let (_, left) ← part? 0 59 (← after? ':' left)
      return left
    else none

/-- What follows the time after a day, which is optional. -/
def dayTime (cs : List Char) : List Char :=
  match cs with
  | [] => []
  | c :: rest =>
    if c = 'T' || c = 't' || c = ' ' then
      match time? rest with
      | some left => (offset? left).getD left
      | none => cs
    else cs

/-- What follows the date or the time at the front. -/
def date? (cs : List Char) : Option (List Char) := (day? cs).map dayTime <|> time? cs

/-- The date or the number at the front. -/
def number? (cs : List Char) : Option (Node × List Char) :=
  match date? cs with
  | some left => some (.date, left)
  | none =>
    match float? cs with
    | some left => some (.float, left)
    | none => (integer? cs).map fun (n, left) => (.integer n, left)

end LogSift.Toml
