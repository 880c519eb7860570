import LogSift.Text.Decimal
/-!
# Numbers in decimal digits

A text of digits is read as the number that it writes, unless that is too
large (`readNat_eq_ok_iff`). So what is written for a number is read as that
number (`numeral_toDigits`). Integers of 64 bits may have a sign in front
(`readInt_eq_ok_iff`).
-/


namespace LogSift

namespace Text

variable {limit value n : Nat} {fault : NumberFault} {cs ds : List Char}

/-- **The digits of a number** that is not too large to be read. -/
structure Numeral (ds : List Char) (n : Nat) : Prop where
  ne_nil : ds ≠ []
  digits : ∀ c ∈ ds, c.isDigit = true
  value : Nat.ofDigitChars 10 ds 0 = n
  le : n ≤ maxNat

theorem ofDigitChars_cons (c : Char) (cs : List Char) (value : Nat) :
    Nat.ofDigitChars 10 (c :: cs) value = Nat.ofDigitChars 10 cs (value * 10 + (c.toNat - 48)) := by
  rw [Nat.ofDigitChars, List.foldl_cons, Nat.mul_comm]
  rfl

/-- More digits make no smaller number. -/
theorem le_ofDigitChars (cs : List Char) (value : Nat) : value ≤ Nat.ofDigitChars 10 cs value := by
  induction cs generalizing value with
  | nil => exact Nat.le_refl value
  | cons c cs ih =>
    rw [ofDigitChars_cons]
    have := ih (value * 10 + (c.toNat - 48))
    omega

/-- Digits are read up to the first number that is too large. -/
theorem digitsValue_eq (h : ∀ c ∈ cs, c.isDigit = true) (hvalue : value ≤ limit) :
    digitsValue limit fault value cs =
      if Nat.ofDigitChars 10 cs value ≤ limit then .ok (Nat.ofDigitChars 10 cs value)
      else .error fault := by
  induction cs generalizing value with
  | nil => rw [digitsValue, Nat.ofDigitChars, List.foldl_nil, if_pos hvalue]
  | cons c cs ih =>
    obtain ⟨hc, hcs⟩ := List.forall_mem_cons.mp h
    rw [digitsValue, ofDigitChars_cons, if_neg (by simp [hc])]
    by_cases hnext : limit < value * 10 + (c.toNat - 48)
    · have := le_ofDigitChars cs (value * 10 + (c.toNat - 48))
      rw [if_pos hnext, if_neg (by omega)]
    · rw [if_neg hnext, ih hcs (by omega)]

/-- Nothing but digits is read. -/
theorem isDigit_of_digitsValue (h : digitsValue limit fault value cs = .ok n) :
    ∀ c ∈ cs, c.isDigit = true := by
  induction cs generalizing value with
  | nil => simp
  | cons c cs ih =>
    rw [digitsValue] at h
    split at h
    · cases h
    · rename_i hc
      split at h
      · cases h
      · exact List.forall_mem_cons.mpr ⟨by simpa using hc, ih h⟩

/-- Without a sign, it is the digits that are read. -/
theorem readNat_of_head? (hplus : cs.head? ≠ some '+') (hne : cs ≠ []) :
    readNat cs = digitsValue maxNat .tooLarge 0 cs := by
  cases cs with
  | nil => exact absurd rfl hne
  | cons c cs =>
    have hc : c ≠ '+' := by simpa using hplus
    rw [readNat, digits?, if_neg (by simp)]
    · exact List.cons_ne_nil c cs
    · intro rest hrest
      exact hc (List.cons.inj hrest).1

/-- A sign is no digit. -/
theorem head?_ne_plus (h : ∀ c ∈ ds, c.isDigit = true) : ds.head? ≠ some '+' := fun hhead =>
  absurd (h '+' (List.mem_of_mem_head? hhead)) (by decide)

/-- **Digits are read as the number they write**, unless it is too large. -/
theorem readNat_of_digits (hne : ds ≠ []) (h : ∀ c ∈ ds, c.isDigit = true) :
    readNat ds = if Nat.ofDigitChars 10 ds 0 ≤ maxNat then .ok (Nat.ofDigitChars 10 ds 0)
      else .error .tooLarge := by
  rw [readNat_of_head? (head?_ne_plus h) hne, digitsValue_eq h (Nat.zero_le _)]

/-- **What is read without a sign are the digits of the number.** -/
theorem readNat_eq_ok_iff (hplus : ds.head? ≠ some '+') : readNat ds = .ok n ↔ Numeral ds n := by
  constructor
  · intro h
    have hne : ds ≠ [] := by
      rintro rfl
      cases h
    have hdigits : ∀ c ∈ ds, c.isDigit = true :=
      isDigit_of_digitsValue (readNat_of_head? hplus hne ▸ h)
    rw [readNat_of_digits hne hdigits] at h
    split at h
    · rename_i hle
      obtain rfl := Except.ok.inj h
      exact ⟨hne, hdigits, rfl, hle⟩
    · cases h
  · rintro ⟨hne, hdigits, rfl, hle⟩
    rw [readNat_of_digits hne hdigits, if_pos hle]

/-! ## Integers with a sign -/

/-- **A text writes an integer of 64 bits**: digits, behind a sign or without one. -/
inductive WritesInteger : List Char → Int → Prop
  | bare {ds : List Char} {n : Nat} :
      Numeral ds n → n < 0x8000000000000000 → WritesInteger ds n
  | plus {ds : List Char} {n : Nat} :
      Numeral ds n → n < 0x8000000000000000 → WritesInteger ('+' :: ds) n
  | minus {ds : List Char} {n : Nat} :
      Numeral ds n → n ≤ 0x8000000000000000 → WritesInteger ('-' :: ds) (-(n : Int))

theorem digits?_eq_ok_iff (hlimit : limit ≤ maxNat) :
    digits? limit fault ds = .ok n ↔ Numeral ds n ∧ n ≤ limit := by
  rw [digits?]
  split
  · rename_i hnil
    simp only [reduceCtorEq, false_iff, not_and]
    exact fun h => absurd (List.isEmpty_iff.mp hnil) h.ne_nil
  · rename_i hne
    constructor
    · intro h
      have hdigits := isDigit_of_digitsValue h
      rw [digitsValue_eq hdigits (Nat.zero_le _)] at h
      split at h
      · rename_i hle
        obtain rfl := Except.ok.inj h
        exact ⟨⟨by simpa using hne, hdigits, rfl, Nat.le_trans hle hlimit⟩, hle⟩
      · cases h
    · rintro ⟨⟨-, hdigits, rfl, -⟩, hle⟩
      rw [digitsValue_eq hdigits (Nat.zero_le _), if_pos hle]

/-- A number that is read is taken for another one. -/
theorem map_digits?_eq_ok_iff {f : Nat → Int} {z : Int} (hlimit : limit ≤ maxNat) :
    (digits? limit fault ds).map f = .ok z ↔ ∃ n, (Numeral ds n ∧ n ≤ limit) ∧ f n = z := by
  have hread : ∀ n, digits? limit fault ds = .ok n ↔ Numeral ds n ∧ n ≤ limit := fun _ =>
    digits?_eq_ok_iff hlimit
  simp only [← hread]
  rcases digits? limit fault ds with e | n <;> simp [Except.map]

/-- **What is read with a sign or without one are the integers of 64 bits.** -/
theorem readInt_eq_ok_iff {z : Int} : readInt cs = .ok z ↔ WritesInteger cs z := by
  have hfront : (0x7FFFFFFFFFFFFFFF : Nat) ≤ maxNat := by decide
  have hback : (0x8000000000000000 : Nat) ≤ maxNat := by decide
  constructor
  · intro h
    unfold readInt at h
    split at h
    · cases h
    · obtain ⟨n, ⟨hn, hle⟩, rfl⟩ := (map_digits?_eq_ok_iff hfront).mp h
      exact .plus hn (by omega)
    · obtain ⟨n, ⟨hn, hle⟩, rfl⟩ := (map_digits?_eq_ok_iff hback).mp h
      exact .minus hn (by omega)
    · obtain ⟨n, ⟨hn, hle⟩, rfl⟩ := (map_digits?_eq_ok_iff hfront).mp h
      exact .bare hn (by omega)
  · intro h
    cases h with
    | @bare _ n hn hlt =>
      have hread : readInt cs = (digits? 0x7FFFFFFFFFFFFFFF .tooLarge cs).map Int.ofNat := by
        unfold readInt
        split
        · exact absurd rfl hn.ne_nil
        · exact absurd (hn.digits '+' List.mem_cons_self) (by decide)
        · exact absurd (hn.digits '-' List.mem_cons_self) (by decide)
        · rfl
      exact hread.trans ((map_digits?_eq_ok_iff hfront).mpr ⟨n, ⟨hn, by omega⟩, rfl⟩)
    | @plus ds n hn hlt =>
      exact (map_digits?_eq_ok_iff hfront).mpr ⟨n, ⟨hn, by omega⟩, rfl⟩
    | @minus ds n hn hle =>
      exact (map_digits?_eq_ok_iff hback).mpr ⟨n, ⟨hn, by omega⟩, rfl⟩

/-- The digits that a number is written with. -/
theorem numeral_toDigits (h : n ≤ maxNat) : Numeral (Nat.toDigits 10 n) n :=
  ⟨Nat.toDigits_ne_nil, fun _ hc => Nat.isDigit_of_mem_toDigits (by decide) (by decide) hc,
    Nat.ofDigitChars_toDigits (by decide) (by decide), h⟩

end Text

end LogSift
