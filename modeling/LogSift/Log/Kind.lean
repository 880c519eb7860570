import LogSift.Text.Blank
import LogSift.Unicode.Query

/-!
# Kinds of lines

The kind of a line is its text without the details: what stands behind an equals sign, up to a
comma or a blank, becomes `VAL`, and then every run of digits becomes `N`.
-/

namespace LogSift.Text

/-- May the character belong to a value? -/
def isValueChar (c : Char) : Bool := c != ',' && !isBlank c

/-- A text with `VAL` in place of what stands behind equals signs. `inValue` is whether the text
goes on with a value that has been replaced. -/
def hideValuesFrom (inValue : Bool) : List Char → List Char
  | [] => []
  | c :: rest =>
    if inValue && isValueChar c then hideValuesFrom true rest
    else if c = '=' && rest.head?.any isValueChar then
      '=' :: 'V' :: 'A' :: 'L' :: hideValuesFrom true rest
    else c :: hideValuesFrom false rest

/-- A text with `VAL` in place of what stands behind equals signs. -/
def hideValues (cs : List Char) : List Char := hideValuesFrom false cs

/-- A text with `N` in place of runs of digits. `inDigits` is whether the text goes on with
digits that have been replaced. -/
def hideDigitsFrom (inDigits : Bool) : List Char → List Char
  | [] => []
  | c :: rest =>
    if Unicode.digit.contains c then
      if inDigits then hideDigitsFrom true rest else 'N' :: hideDigitsFrom true rest
    else c :: hideDigitsFrom false rest

/-- A text with `N` in place of runs of digits. -/
def hideDigits (cs : List Char) : List Char := hideDigitsFrom false cs

/-- The kind of a line. -/
def kindOf (text : String) : String := String.ofList (hideDigits (hideValues text.toList))

end LogSift.Text
