import LogSift.Clock.Moment
import LogSift.Text.Blank

/-!
# Date formats

A date format is text with specifiers, each a percent sign and a letter. `DateFormat.items` reads
a format, `DateFormat.isValid` is whether every specifier in it is known, and `Moment.format`
writes a moment. A hyphen, a zero or an underscore after the percent sign chooses how a single
number is padded.
-/

namespace LogSift

/-- How a number is filled up to its width. -/
inductive Padding
  | none | zero | space
deriving DecidableEq, Repr

namespace DateFormat

/-- A number in a date. -/
inductive Quantity
  | year | century | yearOfCentury | isoYear | isoYearOfCentury | quarter | month | day
  | weekFromSunday | weekFromMonday | isoWeek | daysFromSunday | dayFromMonday | ordinal
  | hour | hour12 | minute | second | nanosecond | timestamp
deriving DecidableEq, Repr

/-- A part of a date that is not a padded number. -/
inductive Fixed
  | weekdayName (long : Bool)
  | monthName (long : Bool)
  | halfOfDay (upper : Bool)
  | zoneName
  /-- The offset of the zone, with as many numbers and with colons between them, or not. -/
  | offset (numbers : Nat) (colons : Bool)
  /-- The fraction of a second, with a point before it and so many digits. -/
  | fraction (point : Bool) (digits : Nat)
  /-- The fraction of a second with a point, in as few groups of three digits as it takes. -/
  | shortFraction
  | full
deriving DecidableEq, Repr

/-- A piece of a format. -/
inductive Item
  | text (cs : List Char)
  | number (q : Quantity) (padding : Padding)
  | fixed (f : Fixed)
  | invalid
deriving DecidableEq, Repr

/-- A number padded with zeros. -/
def zeros (q : Quantity) : Item := .number q .zero

/-- A character as it is. -/
def char (c : Char) : Item := .text [c]

/-- The time of day. -/
def timeItems : List Item := [zeros .hour, char ':', zeros .minute, char ':', zeros .second]

/-- The day in numbers, the month first. -/
def dayItems : List Item := [zeros .month, char '/', zeros .day, char '/', zeros .yearOfCentury]

/-- The items of a specifier of one letter. -/
def letterItems : Char → List Item
  | 'A' => [.fixed (.weekdayName true)]
  | 'B' => [.fixed (.monthName true)]
  | 'C' => [zeros .century]
  | 'D' => dayItems
  | 'F' => [zeros .year, char '-', zeros .month, char '-', zeros .day]
  | 'G' => [zeros .isoYear]
  | 'H' => [zeros .hour]
  | 'I' => [zeros .hour12]
  | 'M' => [zeros .minute]
  | 'P' => [.fixed (.halfOfDay false)]
  | 'R' => [zeros .hour, char ':', zeros .minute]
  | 'S' => [zeros .second]
  | 'T' => timeItems
  | 'U' => [zeros .weekFromSunday]
  | 'V' => [zeros .isoWeek]
  | 'W' => [zeros .weekFromMonday]
  | 'X' => timeItems
  | 'Y' => [zeros .year]
  | 'Z' => [.fixed .zoneName]
  | 'a' => [.fixed (.weekdayName false)]
  | 'b' => [.fixed (.monthName false)]
  | 'c' => [.fixed (.weekdayName false), char ' ', .fixed (.monthName false), char ' ',
      .number .day .space, char ' '] ++ timeItems ++ [char ' ', zeros .year]
  | 'd' => [zeros .day]
  | 'e' => [.number .day .space]
  | 'f' => [zeros .nanosecond]
  | 'g' => [zeros .isoYearOfCentury]
  | 'h' => [.fixed (.monthName false)]
  | 'j' => [zeros .ordinal]
  | 'k' => [.number .hour .space]
  | 'l' => [.number .hour12 .space]
  | 'm' => [zeros .month]
  | 'n' => [char '\n']
  | 'p' => [.fixed (.halfOfDay true)]
  | 'q' => [.number .quarter .none]
  | 'r' => [zeros .hour12, char ':', zeros .minute, char ':', zeros .second, char ' ',
      .fixed (.halfOfDay true)]
  | 's' => [.number .timestamp .none]
  | 't' => [char '\t']
  | 'u' => [.number .dayFromMonday .none]
  | 'v' => [.number .day .space, char '-', .fixed (.monthName false), char '-', zeros .year]
  | 'w' => [.number .daysFromSunday .none]
  | 'x' => dayItems
  | 'y' => [zeros .yearOfCentury]
  | 'z' => [.fixed (.offset 2 false)]
  | '+' => [.fixed .full]
  | '%' => [char '%']
  | _ => [.invalid]

/-- The digits of a fraction that a format can ask for. -/
def fractionDigits? : Char → Option Nat
  | '3' => some 3
  | '6' => some 6
  | '9' => some 9
  | _ => none

/-- The items of a specifier after its percent sign and padding, and what follows it. -/
def specifier : List Char → List Item × List Char
  | [] => ([.invalid], [])
  | '#' :: 'z' :: rest => ([.fixed (.offset 2 false)], rest)
  | '#' :: _ :: rest => ([.invalid], rest)
  | ':' :: ':' :: ':' :: 'z' :: rest => ([.fixed (.offset 1 true)], rest)
  | ':' :: ':' :: 'z' :: rest => ([.fixed (.offset 3 true)], rest)
  | ':' :: 'z' :: rest => ([.fixed (.offset 2 true)], rest)
  | '.' :: 'f' :: rest => ([.fixed .shortFraction], rest)
  | '.' :: d :: 'f' :: rest =>
    match fractionDigits? d with
    | some n => ([.fixed (.fraction true n)], rest)
    | none => ([.invalid], 'f' :: rest)
  | c :: rest =>
    match fractionDigits? c with
    | some n =>
      match rest with
      | 'f' :: rest => ([.fixed (.fraction false n)], rest)
      | rest => ([.invalid], rest)
    | none => (letterItems c, rest)

/-- The items of a specifier with a padding of its own: only a single number has one. -/
def padded (padding : Padding) : List Item → List Item
  | [.number q _] => [.number q padding]
  | _ => [.invalid]

/-- The padding a character chooses. -/
def padding? : Char → Option Padding
  | '-' => some .none
  | '0' => some .zero
  | '_' => some .space
  | _ => none

/-- The items of a format; every specifier takes at least one character of those counted by the
first argument. -/
def itemsFrom : Nat → List Char → List Item
  | 0, _ => []
  | _, [] => []
  | n + 1, '%' :: rest =>
    match rest with
    | [] => [.invalid]
    | c :: inner =>
      match padding? c with
      | some p =>
        let (items, left) := specifier inner
        padded p items ++ itemsFrom n left
      | none =>
        let (items, left) := specifier (c :: inner)
        items ++ itemsFrom n left
  | n + 1, c :: rest => char c :: itemsFrom n rest

/-- The items of a format. -/
def items (format : String) : List Item :=
  itemsFrom (format.toList.length + 1) format.toList

/-- Is every specifier of the format known? -/
def isValid (format : String) : Bool := !(items format).contains .invalid

/-! ## Writing -/

/-- The names of the days of the week. -/
def weekdayNames : List String :=
  ["Sunday", "Monday", "Tuesday", "Wednesday", "Thursday", "Friday", "Saturday"]

/-- The names of the months. -/
def monthNames : List String :=
  ["January", "February", "March", "April", "May", "June", "July", "August", "September",
    "October", "November", "December"]

/-- A number filled up to a width. -/
def pad (width : Nat) (p : Padding) (n : Nat) : List Char :=
  let ds := (toString n).toList
  match p with
  | .none => ds
  | .zero => List.replicate (width - ds.length) '0' ++ ds
  | .space => List.replicate (width - ds.length) ' ' ++ ds

/-- A year: four digits, however it is padded, and a sign before one with more. -/
def yearText (p : Padding) (year : Nat) : List Char :=
  if 10000 ≤ year then '+' :: pad 4 p year else pad 4 p year

/-- The first letters of a name, or all of it. -/
def shorten (long : Bool) (name : String) : List Char :=
  if long then name.toList else name.toList.take 3

end DateFormat

namespace Moment

open DateFormat

/-- The hour on a clock with twelve. -/
def hour12 (t : Moment) : Nat := if t.hour % 12 = 0 then 12 else t.hour % 12

/-- A number in a date, with its padding. -/
def quantity (t : Moment) (q : Quantity) (p : Padding) : List Char :=
  let d := t.date
  match q with
  | .year => yearText p d.year
  | .century => pad 2 p (d.year / 100)
  | .yearOfCentury => pad 2 p (d.year % 100)
  | .isoYear => yearText p t.isoWeek.1
  | .isoYearOfCentury => pad 2 p (t.isoWeek.1 % 100)
  | .quarter => pad 1 p ((d.month - 1) / 3 + 1)
  | .month => pad 2 p d.month
  | .day => pad 2 p d.day
  | .weekFromSunday => pad 2 p ((d.ordinal + 6 - t.weekday) / 7)
  | .weekFromMonday => pad 2 p ((d.ordinal + 6 - (t.weekday + 6) % 7) / 7)
  | .isoWeek => pad 2 p t.isoWeek.2
  | .daysFromSunday => pad 1 p t.weekday
  | .dayFromMonday => pad 1 p ((t.weekday + 6) % 7 + 1)
  | .ordinal => pad 3 p d.ordinal
  | .hour => pad 2 p t.hour
  | .hour12 => pad 2 p t.hour12
  | .minute => pad 2 p t.minute
  | .second => pad 2 p t.second
  | .nanosecond => pad 9 p t.nanos
  | .timestamp => pad 9 p t.seconds

/-- The fraction of a second to some digits. -/
def fraction (t : Moment) (digits : Nat) : List Char :=
  pad digits .zero (t.nanos / Nat.pow 10 (9 - digits))

/-- The fraction with a point, in as few groups of three digits as it takes. -/
def shortFraction (t : Moment) : List Char :=
  if t.nanos = 0 then []
  else if t.nanos % 1000000 = 0 then '.' :: t.fraction 3
  else if t.nanos % 1000 = 0 then '.' :: t.fraction 6
  else '.' :: t.fraction 9

/-- A part of a date that is not a padded number. -/
def fixed (t : Moment) : Fixed → List Char
  | .weekdayName long => shorten long (weekdayNames.getD t.weekday "")
  | .monthName long => shorten long (monthNames.getD (t.date.month - 1) "")
  | .halfOfDay upper =>
    (if t.hour < 12 then (if upper then "AM" else "am") else if upper then "PM" else "pm").toList
  | .zoneName => "+00:00".toList
  | .offset numbers colons =>
    '+' :: (if colons then ":" else "").toList.intercalate (List.replicate numbers ['0', '0'])
  | .fraction point digits => (if point then ['.'] else []) ++ t.fraction digits
  | .shortFraction => t.shortFraction
  | .full =>
    yearText .zero t.date.year ++ '-' :: pad 2 .zero t.date.month ++ '-' :: pad 2 .zero t.date.day
      ++ 'T' :: pad 2 .zero t.hour ++ ':' :: pad 2 .zero t.minute ++ ':' :: pad 2 .zero t.second
      ++ t.shortFraction ++ "+00:00".toList

/-- The text of an item. -/
def item (t : Moment) : Item → List Char
  | .text cs => cs
  | .number q p => t.quantity q p
  | .fixed f => t.fixed f
  | .invalid => []

/-- A moment in a format. -/
def format (t : Moment) (format : String) : String :=
  String.ofList ((items format).flatMap t.item)

end Moment

end LogSift
