/-!
# Whole numbers in decimal

`readNat` and `readInt` read numbers of 64 bits, with an optional sign in front, and name the
reason where there is none. `grouped` writes a number with commas between groups of three
digits.
-/

namespace LogSift.Text

/-- Why a text is not a number. -/
inductive NumberFault
  | empty
  | invalidDigit
  | tooLarge
  | tooSmall
deriving DecidableEq, Repr

/-- The sentence for a fault. -/
def NumberFault.message : NumberFault → String
  | empty => "cannot parse integer from empty string"
  | invalidDigit => "invalid digit found in string"
  | tooLarge => "number too large to fit in target type"
  | tooSmall => "number too small to fit in target type"

/-- The value of the digits after those already read. The first letter that is no digit is the
fault, unless the number has become too large before it. -/
def digitsValue (limit : Nat) (fault : NumberFault) (value : Nat) :
    List Char → Except NumberFault Nat
  | [] => .ok value
  | c :: rest =>
    if !c.isDigit then .error .invalidDigit
    else if limit < value * 10 + (c.toNat - 48) then .error fault
    else digitsValue limit fault (value * 10 + (c.toNat - 48)) rest

/-- The value of one or more digits. -/
def digits? (limit : Nat) (fault : NumberFault) (cs : List Char) : Except NumberFault Nat :=
  if cs.isEmpty then .error .invalidDigit else digitsValue limit fault 0 cs

/-- The largest number of 64 bits. -/
def maxNat : Nat := 0xFFFFFFFFFFFFFFFF

/-- A number from zero on, which may have a plus sign. -/
def readNat (cs : List Char) : Except NumberFault Nat :=
  match cs with
  | [] => .error .empty
  | '+' :: rest => digits? maxNat .tooLarge rest
  | cs => digits? maxNat .tooLarge cs

/-- A number with an optional sign. -/
def readInt (cs : List Char) : Except NumberFault Int :=
  match cs with
  | [] => .error .empty
  | '+' :: rest => (digits? 0x7FFFFFFFFFFFFFFF .tooLarge rest).map Int.ofNat
  | '-' :: rest => (digits? 0x8000000000000000 .tooSmall rest).map fun n => -Int.ofNat n
  | cs => (digits? 0x7FFFFFFFFFFFFFFF .tooLarge cs).map Int.ofNat

/-- Digits with a comma before each group of three that follows others. -/
def groupDigits : List Char → List Char
  | [] => []
  | c :: rest =>
    if !rest.isEmpty && rest.length % 3 = 0 then c :: ',' :: groupDigits rest
    else c :: groupDigits rest

/-- A number with commas, such as `1,234,567`. -/
def grouped (n : Nat) : String := String.ofList (groupDigits (toString n).toList)

end LogSift.Text
