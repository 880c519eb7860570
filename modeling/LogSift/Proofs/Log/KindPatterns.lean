import LogSift.Log.Kind
import LogSift.Proofs.Pattern.Room
import LogSift.Proofs.Unicode.Ascii
/-!
# Kinds by patterns

The kind of a line is made by reading its text once for values and once for
digits. The two patterns `=[^,\s]+` and `\d+` say the same: their matches are
stretches of the text, and the kind is what is left if all matches of the first
are replaced by `=VAL`, and then all of the second by `N`
(`kindOf_eq_replacedText`).
-/


namespace LogSift

namespace Text

open Pattern (Node Expr Mode stretch?)
open Pattern.Machine (roomOf)

/-! ## Values -/

/-- What a value is made of: all but the comma and white space. -/
def valueSet : CharSet := ((CharSet.range 44 44).union Unicode.space).complUpTo CharSet.top

theorem valueSet_ranges : valueSet.ranges = [(0, 8), (14, 31), (33, 43), (45, 0x84), (0x86, 0x9F),
    (0xA1, 0x167F), (0x1681, 0x1FFF), (0x200B, 0x2027), (0x202A, 0x202E), (0x2030, 0x205E),
    (0x2060, 0x2FFF), (0x3001, 0x10FFFF)] := by
  simp only [valueSet, CharSet.union, CharSet.complUpTo, Unicode.space_ranges]
  decide

/-- These are the characters that may belong to one. -/
theorem valueSet_contains (c : Char) : valueSet.contains c = isValueChar c := by
  have hvalid : c.toNat < 0x110000 := by
    rcases c.valid with h | h
    · exact Nat.lt_trans h (by decide)
    · exact h.2
  have hcomma : c = ',' ↔ c.toNat = 44 := Char.toNat_inj.symm
  rw [CharSet.contains, CharSet.containsCode, valueSet_ranges, Bool.eq_iff_iff]
  simp only [List.any_cons, List.any_nil, isValueChar, isBlank, bne_iff_ne, ne_eq, hcomma,
    Bool.or_eq_true, Bool.and_eq_true, Bool.not_eq_true', Bool.or_eq_false_iff,
    Bool.and_eq_false_iff, decide_eq_true_eq, decide_eq_false_iff_not, Bool.false_eq_true, or_false]
  omega

/-- A value that has been replaced goes on to its end. -/
theorem hideValuesFrom_true (cs : List Char) :
    hideValuesFrom true cs = hideValuesFrom false (cs.dropWhile isValueChar) := by
  induction cs with
  | nil => rfl
  | cons c rest ih =>
    rw [hideValuesFrom]
    by_cases hc : isValueChar c = true
    · rw [if_pos (by simp [hc]), ih, List.dropWhile_cons_of_pos hc]
    · simp [hideValuesFrom, hc]

/-- Outside a value, a stretch of an equals sign and a value gives way to `=VAL`. -/
theorem hideValuesFrom_false (c : Char) (rest : List Char) :
    hideValuesFrom false (c :: rest) =
      ((stretch? valueSet [CharSet.single '='] (c :: rest)).map fun found =>
        "=VAL".toList ++ hideValuesFrom false found.2).getD (c :: hideValuesFrom false rest) := by
  have hcontains : valueSet.contains = isValueChar := funext valueSet_contains
  rw [hideValuesFrom, if_neg (by simp), stretch?, stretch?, CharSet.contains_single,
    hcontains]
  by_cases hc : c = '='
  · by_cases hrest : rest.head?.any isValueChar = true
    · simp [hc, hrest, hideValuesFrom_true]
    · simp [hc, hrest]
  · simp [hc]

/-! ## Digits -/

/-- Digits that have been replaced go on to the last one. -/
theorem hideDigitsFrom_true (cs : List Char) :
    hideDigitsFrom true cs = hideDigitsFrom false (cs.dropWhile Unicode.digit.contains) := by
  induction cs with
  | nil => rfl
  | cons c rest ih =>
    rw [hideDigitsFrom]
    by_cases hc : Unicode.digit.contains c = true
    · rw [if_pos hc, if_pos rfl, ih, List.dropWhile_cons_of_pos hc]
    · rw [if_neg hc, List.dropWhile_cons_of_neg hc, hideDigitsFrom, if_neg hc]

/-- Outside digits, a stretch of them gives way to `N`. -/
theorem hideDigitsFrom_false (c : Char) (rest : List Char) :
    hideDigitsFrom false (c :: rest) =
      ((stretch? Unicode.digit [] (c :: rest)).map fun found =>
        "N".toList ++ hideDigitsFrom false found.2).getD (c :: hideDigitsFrom false rest) := by
  rw [hideDigitsFrom, stretch?, List.head?_cons, Option.any_some]
  by_cases hc : Unicode.digit.contains c = true
  · simp [hc, hideDigitsFrom_true]
  · simp [hc]

/-! ## The two patterns -/

/-- The pattern for values is accepted, and its matches are stretches. -/
theorem exists_values : ∃ values, Pattern.ofSource "=[^,\\s]+" = .ok values ∧
    values.finder = (Node.stretch valueSet [CharSet.single '=']).program := by
  have hread : Expr.read "=[^,\\s]+".toList = .ok (.seq (.atom (.literal ⟨'=', false⟩)) (.repeated
      (.bracket true (.both (.literal ⟨',', false⟩) (.perl .space false))) 1 none true)) := by
    decide +kernel
  have hequals : roomOf (CharSet.single '=') ≤ 5000 := by decide +kernel
  have hvalues : roomOf valueSet ≤ 5000 := by
    rw [roomOf, Pattern.ByteSequence.ofSet, valueSet_ranges]
    decide +kernel
  exact Pattern.exists_ofSource_stretch hread rfl (by decide) (by decide)
    (List.forall_mem_singleton.mpr hequals) hvalues (by decide)

/-- And so is the one for digits. -/
theorem exists_digits : ∃ digits, Pattern.ofSource "\\d+" = .ok digits ∧
    digits.finder = (Node.stretch Unicode.digit []).program := by
  have hread : Expr.read "\\d+".toList =
      .ok (.repeated (.atom (.perl .digit false)) 1 none true) := by decide +kernel
  obtain ⟨rest, hranges, hfew, hrest⟩ := Unicode.exists_digit_ranges
  have hroom : roomOf Unicode.digit ≤ 128 + 100 * 328 := by
    refine Pattern.Machine.roomOf_le ?_ ?_
    · rw [hranges]
      exact List.forall_mem_cons.mpr ⟨rfl, fun r hr => (hrest r hr).2.1⟩
    · rw [hranges]
      exact hfew
  exact Pattern.exists_ofSource_stretch hread rfl (by decide) (by decide)
    (List.forall_mem_nil _) hroom (by decide)

/-- **The kind of a line is what two replacements make of it**: of each value by `VAL`, and of
each run of digits by `N`. -/
theorem kindOf_eq_replacedText : ∃ values digits : Pattern,
    Pattern.ofSource "=[^,\\s]+" = .ok values ∧ Pattern.ofSource "\\d+" = .ok digits ∧
    ∀ text number, kindOf text =
      (Line.ofText ((Line.ofText text number).replacedText values "=VAL" true)
        number).replacedText digits "N" true := by
  obtain ⟨values, hvalues, hfindValues⟩ := exists_values
  obtain ⟨digits, hdigits, hfindDigits⟩ := exists_digits
  refine ⟨values, digits, hvalues, hdigits, fun text number => ?_⟩
  have hfirst : (Line.ofText text number).replacedText values "=VAL" true =
      String.ofList (hideValues text.toList) := by
    rw [Line.replacedText, Line.replacedSpans, if_pos rfl, Pattern.allMatches, hfindValues]
    exact congrArg String.ofList (Pattern.splice_stretches rfl hideValuesFrom_false text.toList)
  rw [hfirst, Line.replacedText, Line.replacedSpans, if_pos rfl, Pattern.allMatches, hfindDigits,
    Line.ofText, String.toList_ofList, kindOf]
  exact congrArg String.ofList (Pattern.splice_stretches rfl hideDigitsFrom_false _).symm

end Text

end LogSift
