import LogSift.Unicode.Recent
import LogSift.Unicode.Query
import LogSift.Text.Blank
import LogSift.Proofs.CharSet
/-!
# Tables and ASCII characters

The tables hold the characters of all scripts. Among the ASCII characters,
those that count as digits are the ten (`digit_contains_of_lt`), and
what stands before them is neither a letter nor a number
(`alphanumeric_contains_of_lt`). The small letters are letters
(`letter_contains_of_isLower`). Blanks are the white space of the table
(`space_contains`), and no blank is a digit, in ASCII or beyond
(`digit_contains_of_isBlank`).
-/


namespace LogSift

namespace CharSet

variable {s t : CharSet} {n : Nat} {c : Char}

/-- No range of the set starts before a code point. -/
def StartsAt (n : Nat) (s : CharSet) : Prop := ∀ r ∈ s.ranges, n ≤ r.1

instance (n : Nat) (s : CharSet) : Decidable (s.StartsAt n) :=
  inferInstanceAs (Decidable (∀ r ∈ s.ranges, n ≤ r.1))

/-- So the set holds nothing before it. -/
theorem StartsAt.contains (h : s.StartsAt n) (hc : c.toNat < n) : s.contains c = false := by
  rw [CharSet.contains, containsCode, List.any_eq_false]
  intro r hr
  have := h r hr
  simp only [Bool.and_eq_true, decide_eq_true_eq]
  omega

theorem insertRange_startsAt {lo hi : Nat} {ranges : List (Nat × Nat)} (hlo : n ≤ lo)
    (h : ∀ r ∈ ranges, n ≤ r.1) : ∀ r ∈ insertRange lo hi ranges, n ≤ r.1 := by
  fun_induction insertRange lo hi ranges with
  | case1 => simpa using hlo
  | case2 => exact List.forall_mem_cons.mpr ⟨hlo, h⟩
  | case3 lo hi a b rest _ _ ih =>
    obtain ⟨ha, hrest⟩ := List.forall_mem_cons.mp h
    exact List.forall_mem_cons.mpr ⟨ha, ih hlo hrest⟩
  | case4 lo hi a b rest _ _ ih =>
    obtain ⟨ha, hrest⟩ := List.forall_mem_cons.mp h
    exact ih (by simp only at ha; omega) hrest

theorem StartsAt.union (hs : s.StartsAt n) (ht : t.StartsAt n) : (s.union t).StartsAt n := by
  obtain ⟨ranges⟩ := t
  induction ranges with
  | nil => exact hs
  | cons r ranges ih =>
    obtain ⟨hr, hranges⟩ := List.forall_mem_cons.mp ht
    exact insertRange_startsAt hr (ih hranges)

theorem unions_startsAt {sets : List CharSet} (h : ∀ s ∈ sets, s.StartsAt n) :
    (unions sets).StartsAt n := by
  induction sets with
  | nil => exact List.forall_mem_nil _
  | cons s sets ih =>
    obtain ⟨hs, hsets⟩ := List.forall_mem_cons.mp h
    exact (ih hsets).union hs

end CharSet

namespace Unicode

open CharSet (StartsAt)

variable {c : Char}

/-! ## Tables

A text whose letters are known is not decoded to be read. -/

theorem map_toList_cons (letters : List Char) (rows : List String) :
    (String.ofList letters :: rows).map String.toList = letters :: rows.map String.toList := by
  rw [List.map_cons, String.toList_ofList]

/-- The letters and the numbers, by categories. -/
theorem ofCode_startsAt :
    ∀ code ∈ ["ll", "lu", "lt", "lm", "lo", "nd", "nl", "no"],
      (Category.ofCode code).StartsAt 48 := by
  simp only [List.forall_mem_cons, List.not_mem_nil, false_implies, implies_true, and_true,
    Category.ofCode, NamedTable.find?, Category.tables, List.find?, List.contains_cons,
    List.contains_nil, String.reduceBEq, Bool.or_false, Option.map_some, Option.getD_some,
    NamedTable.set, CharSet.ofText, String.toList_intercalate]
  refine ⟨?_, ?_, ?_, ?_, ?_, ?_, ?_, ?_⟩
  all_goals
    repeat rw [map_toList_cons]
    decide +kernel

/-- What counts as a letter beside them. -/
theorem ofName_startsAt :
    ∀ name ∈ ["otherlowercase", "otheruppercase", "otheralphabetic"],
      (Property.ofName name).StartsAt 48 := by
  simp only [List.forall_mem_cons, List.not_mem_nil, false_implies, implies_true, and_true,
    Property.ofName, NamedTable.find?, Property.tables, List.find?, List.contains_cons,
    List.contains_nil, String.reduceBEq, Bool.or_false, Bool.or_true, Option.map_some,
    Option.getD_some, NamedTable.set, CharSet.ofText, String.toList_intercalate]
  refine ⟨?_, ?_, ?_⟩
  all_goals
    repeat rw [map_toList_cons]
    decide +kernel

/-- The members of several such categories. -/
theorem group_startsAt {codes : List String}
    (h : codes ⊆ ["ll", "lu", "lt", "lm", "lo", "nd", "nl", "no"]) :
    (Category.group codes).StartsAt 48 := by
  refine CharSet.unions_startsAt fun s hs => ?_
  obtain ⟨code, hcode, rfl⟩ := List.mem_map.mp hs
  exact ofCode_startsAt code (h hcode)

theorem alphabetic_startsAt : Property.alphabetic.get.StartsAt 48 := by
  have hcased : Property.cased.get.StartsAt 48 :=
    (((group_startsAt (by simp)).union (ofName_startsAt _ (by simp))).union
      ((group_startsAt (by simp)).union (ofName_startsAt _ (by simp)))).union
      (group_startsAt (by simp))
  exact (hcased.union (group_startsAt (by simp))).union (ofName_startsAt _ (by simp))

/-- **What stands before the digits is neither a letter nor a number.** -/
theorem alphanumeric_contains_of_lt (hc : c.toNat < 48) :
    Recent.alphanumeric.get.contains c = false := by
  refine StartsAt.contains (CharSet.unions_startsAt fun s hs => ?_) hc
  simp only [List.mem_cons, List.not_mem_nil, or_false] at hs
  rcases hs with rfl | rfl | rfl
  · refine alphabetic_startsAt.union ?_
    rw [CharSet.ofText, String.toList_append, String.toList_append]
    repeat rw [String.toList_ofList]
    decide +kernel
  · exact group_startsAt (by simp)
  · rw [CharSet.ofText, String.toList_ofList]
    decide +kernel

/-- The small letters of ASCII are the first ones. -/
theorem exists_ofCode_ll : ∃ rest, (Category.ofCode "ll").ranges = (97, 122) :: rest := by
  refine ⟨(Category.ofCode "ll").ranges.tail, ?_⟩
  simp only [Category.ofCode, NamedTable.find?, Category.tables, List.find?, List.contains_cons,
    List.contains_nil, String.reduceBEq, Bool.or_false, Option.map_some, Option.getD_some,
    NamedTable.set, CharSet.ofText, String.toList_intercalate]
  repeat rw [map_toList_cons]
  decide +kernel

/-- **The small letters of ASCII are letters.** -/
theorem letter_contains_of_isLower (hc : c.isLower = true) :
    Recent.letter.get.contains c = true := by
  have hsmall : (Category.ofCode "ll").contains c = true := by
    obtain ⟨rest, hranges⟩ := exists_ofCode_ll
    obtain ⟨hlo, hhi⟩ := (Bool.and_eq_true _ _).mp hc
    have hlo : 97 ≤ c.toNat := UInt32.le_iff_toNat_le.mp (of_decide_eq_true hlo)
    have hhi : c.toNat ≤ 122 := UInt32.le_iff_toNat_le.mp (of_decide_eq_true hhi)
    rw [CharSet.contains, CharSet.containsCode, hranges, List.any_cons]
    simp [hlo, hhi]
  have hgroup : (Category.group ["ll"]).contains c = true :=
    (CharSet.contains_unions _).mpr ⟨_, List.mem_singleton_self _, hsmall⟩
  have hcased : Property.cased.get.contains c = true :=
    CharSet.contains_union_left (CharSet.contains_union_left
      (CharSet.contains_union_left hgroup _) _) _
  have halphabetic : Property.alphabetic.get.contains c = true :=
    CharSet.contains_union_left (CharSet.contains_union_left hcased _) _
  exact CharSet.contains_union_left halphabetic _

theorem alphanumeric_contains_of_isLower (hc : c.isLower = true) :
    Recent.alphanumeric.get.contains c = true :=
  (CharSet.contains_unions _).mpr ⟨_, List.mem_cons_self, letter_contains_of_isLower hc⟩

/-- The digits are the ten, and others far behind them between the blanks. These are not many, and
a range of them does not go over the end of a block. -/
theorem exists_digit_ranges : ∃ rest, digit.ranges = (48, 57) :: rest ∧ rest.length < 100 ∧
    ∀ r ∈ rest, 0xA0 < r.1 ∧ r.1 / 64 = r.2 / 64 ∧
      (r.2 < 0x1680 ∨ (0x1680 < r.1 ∧ r.2 < 0x2000) ∨ 0x3000 < r.1) := by
  refine ⟨digit.ranges.tail, ?_⟩
  simp only [digit, Category.ofCode, NamedTable.find?, Category.tables, List.find?,
    List.contains_cons, List.contains_nil, String.reduceBEq, Bool.or_false, Option.map_some,
    Option.getD_some, NamedTable.set, CharSet.ofText, String.toList_intercalate]
  repeat rw [map_toList_cons]
  decide +kernel

/-- **The ASCII characters among the digits are the ten.** -/
theorem digit_contains_of_lt (hc : c.toNat < 128) : digit.contains c = c.isDigit := by
  obtain ⟨rest, hranges, -, hrest⟩ := exists_digit_ranges
  have hnone : rest.any (fun r => r.1 ≤ c.toNat && c.toNat ≤ r.2) = false := by
    refine StartsAt.contains (s := ⟨rest⟩) (n := 128) (fun r hr => ?_) hc
    have := (hrest r hr).1
    omega
  rw [CharSet.contains, CharSet.containsCode, hranges, List.any_cons, hnone, Bool.or_false]
  rfl

theorem toNat_lt_of_isDigit (h : c.isDigit = true) : c.toNat < 128 := by
  simp only [Char.isDigit, Bool.and_eq_true, decide_eq_true_eq] at h
  have := UInt32.le_iff_toNat_le.mp h.2
  exact Nat.lt_of_le_of_lt this (by decide)

/-- The white space of the standard. -/
theorem space_ranges : space.ranges = [(9, 13), (32, 32), (0x85, 0x85), (0xA0, 0xA0),
    (0x1680, 0x1680), (0x2000, 0x200A), (0x2028, 0x2029), (0x202F, 0x202F), (0x205F, 0x205F),
    (0x3000, 0x3000)] := by
  simp only [space, Property.ofName, NamedTable.find?, Property.tables, List.find?,
    List.contains_cons, List.contains_nil, String.reduceBEq, Bool.or_false, Bool.or_true,
    Option.map_some, Option.getD_some, NamedTable.set, CharSet.ofText, String.toList_intercalate]
  repeat rw [map_toList_cons]
  decide +kernel

/-- **Blanks are the white space of the standard.** -/
theorem space_contains (c : Char) : space.contains c = isBlank c := by
  rw [CharSet.contains, CharSet.containsCode, space_ranges, Bool.eq_iff_iff]
  simp only [List.any_cons, List.any_nil, isBlank, Bool.or_eq_true, Bool.and_eq_true,
    decide_eq_true_eq, Bool.false_eq_true, or_false]
  omega

/-- **No blank is a digit.** -/
theorem digit_contains_of_isBlank (hc : isBlank c = true) : digit.contains c = false := by
  obtain ⟨rest, hranges, -, hrest⟩ := exists_digit_ranges
  rw [CharSet.contains, CharSet.containsCode, hranges, List.any_eq_false]
  simp only [isBlank, Bool.or_eq_true, Bool.and_eq_true, decide_eq_true_eq] at hc
  intro r hr
  simp only [Bool.and_eq_true, decide_eq_true_eq]
  rcases List.mem_cons.mp hr with rfl | hr
  · simp only
    omega
  · have := hrest r hr
    omega

theorem isBlank_of_isDigit (h : c.isDigit = true) : isBlank c = false := by
  cases hblank : isBlank c
  · rfl
  · have hdigit := digit_contains_of_isBlank hblank
    rw [digit_contains_of_lt (toNat_lt_of_isDigit h), h] at hdigit
    cases hdigit

end Unicode

end LogSift
