import LogSift.Proofs.Log.KindPatterns
/-!
# Kinds of lines are normal forms

A text is free of details if there is no digit in it and no value other than
`VAL` behind an equals sign (`FreeOfDetails`). The kind of a line is so, and
such a text is its own kind (`kindOf_normal`): what is put in place of values
and of digits is neither, and a value that has been replaced ends where it
ended before.
-/


namespace LogSift

namespace Text

variable {c : Char} {cs rest behind : List Char} {inValue inDigits : Bool}

/-! ## Normal forms -/

/-- No value goes on here: the text ends, or goes on with a comma or with white space. -/
def ValueEnds (cs : List Char) : Prop :=
  ∀ c, cs.head? = some c → c = ',' ∨ Unicode.space.contains c = true

/-- There is no value here but `VAL`. -/
def ValueHidden (cs : List Char) : Prop :=
  ValueEnds cs ∨ ∃ rest, cs = 'V' :: 'A' :: 'L' :: rest ∧ ValueEnds rest

/-- **There is no value behind an equals sign** but `VAL`. -/
def ValuesHidden (cs : List Char) : Prop :=
  ∀ before behind, cs = before ++ '=' :: behind → ValueHidden behind

/-- **There are no digits.** -/
def DigitsHidden (cs : List Char) : Prop := ∀ c ∈ cs, Unicode.digit.contains c = false

theorem valueEnds_iff : ValueEnds cs ↔ cs.head?.any isValueChar = false := by
  cases cs with
  | nil => simp [ValueEnds]
  | cons c cs =>
    simp only [ValueEnds, List.head?_cons, Option.some.injEq, forall_eq', Option.any_some,
      isValueChar, Unicode.space_contains, Bool.and_eq_false_iff, bne_eq_false_iff_eq,
      Bool.not_eq_false']

theorem valueEnds_cons : ValueEnds (c :: cs) ↔ isValueChar c = false := by
  rw [valueEnds_iff, List.head?_cons, Option.any_some]

theorem valuesHidden_nil : ValuesHidden [] := fun before behind h => by simp at h

theorem valuesHidden_cons :
    ValuesHidden (c :: cs) ↔ (c = '=' → ValueHidden cs) ∧ ValuesHidden cs := by
  constructor
  · intro h
    refine ⟨fun hc => h [] cs (by rw [hc, List.nil_append]), fun before behind hcs => ?_⟩
    exact h (c :: before) behind (by rw [hcs, List.cons_append])
  · rintro ⟨hfirst, hrest⟩ before behind hcs
    cases before with
    | nil =>
      obtain ⟨rfl, rfl⟩ := List.cons.inj hcs
      exact hfirst rfl
    | cons d before => exact hrest before behind (List.cons.inj hcs).2

/-! ## Hiding values -/

/-- A value that has been replaced has gone on to its end. -/
theorem valueEnds_hideValuesFrom (h : inValue = true ∨ ValueEnds cs) :
    ValueEnds (hideValuesFrom inValue cs) := by
  fun_induction hideValuesFrom inValue cs with
  | case1 inValue => exact valueEnds_iff.mpr rfl
  | case2 inValue c rest _ ih => exact ih (.inl rfl)
  | case3 inValue c rest hgo hvalue ih =>
    -- an equals sign may belong to a value, so no value has been replaced and none ends before it
    simp only [Bool.and_eq_true, decide_eq_true_eq] at hvalue
    obtain ⟨rfl, -⟩ := hvalue
    rcases h with rfl | hends
    · exact absurd rfl hgo
    · exact absurd (valueEnds_cons.mp hends) (by decide)
  | case4 inValue c rest hgo _ ih =>
    rw [valueEnds_cons]
    rcases h with rfl | hends
    · simpa using hgo
    · exact valueEnds_cons.mp hends

/-- **No values are left.** -/
theorem valuesHidden_hideValuesFrom (inValue : Bool) (cs : List Char) :
    ValuesHidden (hideValuesFrom inValue cs) := by
  fun_induction hideValuesFrom inValue cs with
  | case1 => exact valuesHidden_nil
  | case2 inValue c rest _ ih => exact ih
  | case3 inValue c rest _ _ ih =>
    have hends : ValueEnds (hideValuesFrom true rest) := valueEnds_hideValuesFrom (.inl rfl)
    simp only [valuesHidden_cons, Char.reduceEq, false_implies, true_and]
    exact ⟨fun _ => .inr ⟨_, rfl, hends⟩, ih⟩
  | case4 inValue c rest _ hnot ih =>
    refine valuesHidden_cons.mpr ⟨fun hc => .inl (valueEnds_hideValuesFrom (.inr ?_)), ih⟩
    rw [valueEnds_iff]
    simpa [hc] using hnot

/-- Where a value ends, it makes no difference that it has been replaced. -/
theorem hideValuesFrom_of_valueEnds (h : ValueEnds cs) :
    hideValuesFrom true cs = hideValuesFrom false cs := by
  cases cs with
  | nil => rfl
  | cons c cs =>
    rw [valueEnds_cons] at h
    simp [hideValuesFrom, h]

/-- **Where no values are, nothing is hidden.** -/
theorem hideValues_eq_self (h : ValuesHidden cs) : hideValues cs = cs := by
  rw [hideValues]
  induction cs with
  | nil => rfl
  | cons c rest ih =>
    obtain ⟨hfirst, hrest⟩ := valuesHidden_cons.mp h
    have ih := ih hrest
    rw [hideValuesFrom, if_neg (by simp)]
    split
    · rename_i hvalue
      simp only [Bool.and_eq_true, decide_eq_true_eq] at hvalue
      obtain ⟨rfl, hvalue⟩ := hvalue
      rcases hfirst rfl with hends | ⟨left, rfl, hends⟩
      · rw [valueEnds_iff.mp hends] at hvalue
        cases hvalue
      · -- the value is read again, and replaced by the same
        have hsame : hideValuesFrom false ('V' :: 'A' :: 'L' :: left) =
            'V' :: 'A' :: 'L' :: hideValuesFrom false left := rfl
        have hread : hideValuesFrom true ('V' :: 'A' :: 'L' :: left) =
            hideValuesFrom true left := rfl
        rw [hread, hideValuesFrom_of_valueEnds hends, ← hsame, ih]
    · rw [ih]

/-! ## Hiding digits -/

theorem digit_contains_letter {c : Char} (h : c.toNat < 128) (hc : c.isDigit = false) :
    Unicode.digit.contains c = false := (Unicode.digit_contains_of_lt h).trans hc

/-- **No digits are left.** -/
theorem digitsHidden_hideDigitsFrom (inDigits : Bool) (cs : List Char) :
    DigitsHidden (hideDigitsFrom inDigits cs) := by
  fun_induction hideDigitsFrom inDigits cs with
  | case1 => exact List.forall_mem_nil _
  | case2 c rest _ ih => exact ih
  | case3 inDigits c rest _ _ ih =>
    exact List.forall_mem_cons.mpr ⟨digit_contains_letter (by decide) (by decide), ih⟩
  | case4 inDigits c rest hc ih => exact List.forall_mem_cons.mpr ⟨by simpa using hc, ih⟩

/-- **Where no digits are, nothing is hidden.** -/
theorem hideDigits_eq_self (h : DigitsHidden cs) : hideDigits cs = cs := by
  rw [hideDigits]
  induction cs with
  | nil => rfl
  | cons c rest ih =>
    obtain ⟨hc, hrest⟩ := List.forall_mem_cons.mp h
    rw [hideDigitsFrom, if_neg (by simp [hc]), ih hrest]

theorem hideDigitsFrom_cons (hc : Unicode.digit.contains c = false) (cs : List Char) :
    hideDigitsFrom inDigits (c :: cs) = c :: hideDigitsFrom false cs := by
  rw [hideDigitsFrom, if_neg (by simp [hc])]

/-- Values still end where they ended, because no comma and no blank is a digit. -/
theorem ValueEnds.hideDigits (h : ValueEnds cs) : ValueEnds (hideDigitsFrom inDigits cs) := by
  cases cs with
  | nil => exact h
  | cons c cs =>
    have hc : Unicode.digit.contains c = false := by
      rcases h c rfl with rfl | hblank
      · exact digit_contains_letter (by decide) (by decide)
      · rw [Unicode.space_contains] at hblank
        exact Unicode.digit_contains_of_isBlank hblank
    rw [hideDigitsFrom_cons hc]
    exact fun d hd => h d hd

theorem ValueHidden.hideDigits (h : ValueHidden cs) : ValueHidden (hideDigitsFrom false cs) := by
  rcases h with hends | ⟨rest, rfl, hends⟩
  · exact .inl hends.hideDigits
  · refine .inr ⟨hideDigitsFrom false rest, ?_, hends.hideDigits⟩
    repeat rw [hideDigitsFrom_cons (digit_contains_letter (by decide) (by decide))]

/-- **Values stay hidden** when digits are. -/
theorem ValuesHidden.hideDigits (h : ValuesHidden cs) :
    ValuesHidden (hideDigitsFrom inDigits cs) := by
  fun_induction hideDigitsFrom inDigits cs with
  | case1 => exact h
  | case2 c rest _ ih => exact ih (valuesHidden_cons.mp h).2
  | case3 inDigits c rest _ _ ih =>
    exact valuesHidden_cons.mpr ⟨fun hc => absurd hc (by decide), ih (valuesHidden_cons.mp h).2⟩
  | case4 inDigits c rest _ ih =>
    obtain ⟨hfirst, hrest⟩ := valuesHidden_cons.mp h
    exact valuesHidden_cons.mpr ⟨fun hc => (hfirst hc).hideDigits, ih hrest⟩

/-! ## The kind of a line -/

/-- **There are no details** that tell lines of one kind apart. -/
structure FreeOfDetails (cs : List Char) : Prop where
  digits : DigitsHidden cs
  values : ValuesHidden cs

theorem freeOfDetails_kindOf (text : String) : FreeOfDetails (kindOf text).toList := by
  rw [kindOf, String.toList_ofList]
  exact ⟨digitsHidden_hideDigitsFrom _ _, (valuesHidden_hideValuesFrom _ _).hideDigits⟩

theorem kindOf_eq_self_iff (text : String) : kindOf text = text ↔ FreeOfDetails text.toList := by
  constructor
  · intro h
    rw [← h]
    exact freeOfDetails_kindOf text
  · rintro ⟨hdigits, hvalues⟩
    rw [kindOf, hideValues_eq_self hvalues, hideDigits_eq_self hdigits, String.ofList_toList]

/-- **The kind of a line is a normal form.** It is what is left of the text if first all matches of
one pattern and then all of another are replaced. The kind of a kind is the same, there is no digit
in it, and behind an equals sign it ends or goes on with a comma or with white space, at once or
behind `VAL`. The texts that are kinds are those that are free of other values and of digits. -/
theorem kindOf_normal (text : String) :
    (∃ values digits : Pattern,
      Pattern.ofSource "=[^,\\s]+" = .ok values ∧ Pattern.ofSource "\\d+" = .ok digits ∧
      ∀ number, kindOf text =
        (Line.ofText ((Line.ofText text number).replacedText values "=VAL" true)
          number).replacedText digits "N" true) ∧
      kindOf (kindOf text) = kindOf text ∧
      (∀ c ∈ (kindOf text).toList, Unicode.digit.contains c = false) ∧
      (∀ before behind, (kindOf text).toList = before ++ '=' :: behind →
        ValueEnds behind ∨ ∃ rest, behind = 'V' :: 'A' :: 'L' :: rest ∧ ValueEnds rest) ∧
      (kindOf text = text ↔ FreeOfDetails text.toList) := by
  obtain ⟨values, digits, hvalues, hdigits, hkind⟩ := kindOf_eq_replacedText
  have hfree := freeOfDetails_kindOf text
  exact ⟨⟨values, digits, hvalues, hdigits, hkind text⟩, (kindOf_eq_self_iff _).mpr hfree,
    hfree.digits, hfree.values, kindOf_eq_self_iff text⟩

/-- A value with equals signs in it, and an equals sign without a value. -/
theorem kindOf_normal_of_values :
    let kind := "a=VAL, c= N"
    kindOf "a=b==1, c= 7" = kind ∧ kindOf kind = kind ∧
      kind.toList = "a=VAL, c".toList ++ '=' :: " N".toList ∧
      (ValueEnds " N".toList ∨
        ∃ rest, " N".toList = 'V' :: 'A' :: 'L' :: rest ∧ ValueEnds rest) := by
  intro kind
  have hkind : kindOf "a=b==1, c= 7" = kind := by
    have hvalues : hideValues "a=b==1, c= 7".toList = "a=VAL, c= 7".toList := by decide
    have hdigits : ∀ c : Char, c.toNat < 128 → Unicode.digit.contains c = c.isDigit :=
      fun _ => Unicode.digit_contains_of_lt
    rw [kindOf, hvalues, ← String.toList_inj, String.toList_ofList]
    simp [kind, hideDigits, hideDigitsFrom, hdigits]
  have hsplit : kind.toList = "a=VAL, c".toList ++ '=' :: " N".toList := by decide
  obtain ⟨-, hsame, -, hends, -⟩ := kindOf_normal "a=b==1, c= 7"
  rw [hkind] at hsame hends
  exact ⟨hkind, hsame, hsplit, hends _ _ hsplit⟩

end Text

end LogSift
