import Mathlib.Data.List.Basic
import Mathlib.Tactic.IntervalCases
import LogSift.Clock.DateFormat
/-!
# Telling times by the calendar

The day that `Date.ofDays` finds is counted back by the years and months of
the calendar (`number_ofDays`): the years from March on, of which it takes
400 at a time, are put back to January. So no two days have one date. Numbers
that are filled up with zeros can be read back, and so can those with
separators between them. So what is written of a moment, its date and its
time of day, tells it to the second (`format_clock_eq_iff`).
-/


namespace LogSift

attribute [ext] Date

namespace Date

variable {day year m : Nat}

/-! ## Years -/

/-- The number of days from the first of year one to the first of a year. -/
def daysBeforeYear (year : Nat) : Nat :=
  365 * (year - 1) + (year - 1) / 4 - (year - 1) / 100 + (year - 1) / 400

/-- **The days of a year**, of which a leap year has one more. -/
theorem daysBeforeYear_succ (h : 0 < year) :
    daysBeforeYear (year + 1) = daysBeforeYear year + 365 + (isLeap year).toNat := by
  obtain ⟨last, rfl⟩ := Nat.exists_eq_add_of_lt h
  simp only [daysBeforeYear, isLeap, Nat.zero_add, Nat.add_sub_cancel, Nat.succ_div,
    Nat.dvd_iff_mod_eq_zero]
  -- each quotient grows in the years that its divisor divides
  have hcenturies : last / 100 ≤ last / 4 := Nat.div_le_div_left (by decide) (by decide)
  by_cases hfourth : (last + 1) % 4 = 0
  · by_cases hcentury : (last + 1) % 100 = 0
    · by_cases hcycle : (last + 1) % 400 = 0
      · simp only [hfourth, hcentury, hcycle, if_true, decide_true, bne_self_eq_false, Bool.or_true,
          Bool.and_self, Bool.toNat_true]
        omega
      · simp only [hfourth, hcentury, hcycle, if_true, if_false, decide_true, decide_false,
          bne_self_eq_false, Bool.or_self, Bool.and_false, Bool.toNat_false]
        omega
    · have hcycle : (last + 1) % 400 ≠ 0 := by omega
      simp only [hfourth, hcentury, hcycle, bne_iff_ne.mpr hcentury, if_true, if_false, decide_true,
        decide_false, Bool.or_false, Bool.and_self, Bool.toNat_true]
      omega
  · have hcentury : (last + 1) % 100 ≠ 0 := by omega
    have hcycle : (last + 1) % 400 ≠ 0 := by omega
    simp only [hfourth, hcentury, hcycle, if_false, decide_false, Bool.false_and, Bool.toNat_false]
    omega

/-- After 400 years the calendar starts over. -/
theorem daysBeforeYear_add_cycle (h : year < 400) (era : Nat) :
    daysBeforeYear (year + era * 400 + 1) = 365 * year + year / 4 - year / 100 + 146097 * era := by
  rw [daysBeforeYear, Nat.add_sub_cancel]
  omega

/-- **The year of a day in a cycle** of 400 years, as it is estimated: the day lies within it. -/
theorem yearOfEra_spec (h : day < 146097)
    (hyear : (day - day / 1460 + day / 36524 - day / 146096) / 365 = year) :
    year < 400 ∧ 365 * year + year / 4 - year / 100 ≤ day ∧
      day ≤ 365 * year + year / 4 - year / 100 + 365 := by
  rcases Nat.lt_or_ge day 146096 with hday | hday
  · have hera : day / 146096 = 0 := Nat.div_eq_of_lt hday
    -- the leap days are counted within a century
    have hcentury : day / 36524 = 0 ∨ day / 36524 = 1 ∨ day / 36524 = 2 ∨ day / 36524 = 3 := by
      omega
    rcases hcentury with hcentury | hcentury | hcentury | hcentury
    all_goals
      have hyears : year / 100 = day / 36524 := by omega
      rw [hcentury] at hyears hyear
      rw [hyears]
      omega
  · obtain rfl : day = 146096 := Nat.le_antisymm (Nat.le_of_lt_succ h) hday
    subst hyear
    decide

/-! ## Months -/

/-- **The days before a month**, counted from January and from March: from March on the months come
behind January and February, which in turn come 306 days behind the first of March. -/
theorem daysBefore_month (leap : Bool) (hm : m ≤ 11) :
    daysBefore leap (if m < 10 then m + 3 else m - 9) + (if m < 10 then 0 else 306) =
      (153 * m + 2) / 5 + if m < 10 then 59 + leap.toNat else 0 := by
  interval_cases m <;> cases leap <;> rfl

/-- The number of a day by the years and months of the calendar, the first of year one being day
one. -/
def number (d : Date) : Nat := daysBeforeYear d.year + d.ordinal

/-- The day that is found, from the parts of its number: the cycle, the day in it, its year and
the day in that, both from March on, and the month. -/
theorem ofDays_eq {n z era rest : Nat} (hz : n + 719468 = z) (hera : z / 146097 = era)
    (hday : z % 146097 = day)
    (hyear : (day - day / 1460 + day / 36524 - day / 146096) / 365 = year)
    (hrest : day - (365 * year + year / 4 - year / 100) = rest)
    (hm : (5 * rest + 2) / 153 = m) :
    ofDays n = ⟨year + era * 400 + if (if m < 10 then m + 3 else m - 9) ≤ 2 then 1 else 0,
      if m < 10 then m + 3 else m - 9, rest - (153 * m + 2) / 5 + 1⟩ := by
  subst hz hera hday hyear hrest hm
  rfl

/-- The days are counted from the first of March in the year before year one. -/
theorem number_ofDays_add {n z : Nat} (hz : n + 719468 = z) : (ofDays n).number + 305 = z := by
  have hcycle := Nat.div_add_mod z 146097
  have hlt : z % 146097 < 146097 := Nat.mod_lt _ (by decide)
  generalize hera : z / 146097 = era at hcycle
  generalize hday : z % 146097 = day at hcycle hlt
  generalize hyear : (day - day / 1460 + day / 36524 - day / 146096) / 365 = year
  generalize hrest : day - (365 * year + year / 4 - year / 100) = rest
  generalize hm : (5 * rest + 2) / 153 = m
  rw [ofDays_eq hz hera hday hyear hrest hm]
  -- 1970 is well behind the first cycle
  have hnonzero : 0 < era := by omega
  clear hz
  obtain ⟨hyears, hleast, hmost⟩ := yearOfEra_spec hlt hyear
  have hcount := daysBeforeYear_add_cycle hyears era
  by_cases hlate : m < 10
  · -- from March on the year is that of the cycle
    have hsucc := daysBeforeYear_succ (show 0 < year + era * 400 by omega)
    have hmonth := daysBefore_month (isLeap (year + era * 400)) (m := m) (by omega)
    have hbehind : ¬ m + 3 ≤ 2 := by omega
    simp only [hlate, if_true] at hmonth
    simp only [number, ordinal, hlate, hbehind, if_true, if_false, Nat.add_zero]
    omega
  · have hmonth := daysBefore_month (isLeap (year + era * 400 + 1)) (m := m) (by omega)
    have hbefore : m - 9 ≤ 2 := by omega
    simp only [hlate, if_false] at hmonth
    simp only [number, ordinal, hlate, hbefore, if_true, if_false]
    omega

/-- **The day that is found has the number that it is looked for by.** The first of 1970 is day
719163 of the calendar. -/
theorem number_ofDays (n : Nat) : (ofDays n).number = n + 719163 := by
  have h := number_ofDays_add (n := n) rfl
  omega

/-- No two days have one date. -/
theorem ofDays_injective : Function.Injective ofDays := fun n n' h =>
  Nat.add_right_cancel (by rw [← number_ofDays, ← number_ofDays, h])

end Date

namespace Text

/-- **Texts are the same on both sides of a separator** that stands nowhere before it. -/
theorem eq_of_append_cons_eq {c : Char} {a a' b b' : List Char} (ha : c ∉ a) (ha' : c ∉ a')
    (h : a ++ c :: b = a' ++ c :: b') : a = a' ∧ b = b' := by
  -- the separator stands first behind as many characters
  have hplace : a.length = a'.length := by
    have hidx := congrArg (List.idxOf c) h
    rwa [List.idxOf_append_of_notMem ha, List.idxOf_append_of_notMem ha', List.idxOf_cons_self,
      List.idxOf_cons_self] at hidx
  obtain ⟨hbefore, hbehind⟩ := List.append_inj h hplace
  exact ⟨hbefore, (List.cons.inj hbehind).2⟩

end Text

namespace DateFormat

variable {c : Char} {n year : Nat}

/-! ## Numbers that are written -/

theorem isDigit_of_mem_pad {width : Nat} (h : c ∈ pad width .zero n) : c.isDigit = true := by
  rw [pad, List.mem_append, Nat.toString_eq_ofList_toDigits, String.toList_ofList] at h
  rcases h with h | h
  · rw [List.eq_of_mem_replicate h]
    rfl
  · exact Nat.isDigit_of_mem_toDigits (by decide) (by decide) h

theorem ofDigitChars_replicate (k : Nat) : Nat.ofDigitChars 10 (List.replicate k '0') 0 = 0 := by
  induction k with
  | zero => rfl
  | succ k ih => exact ih

/-- A number that is filled up with zeros can be read back. -/
theorem ofDigitChars_pad (width n : Nat) : Nat.ofDigitChars 10 (pad width .zero n) 0 = n := by
  rw [pad, Nat.toString_eq_ofList_toDigits, String.toList_ofList, Nat.ofDigitChars_append,
    ofDigitChars_replicate, Nat.ofDigitChars_ten_toDigits]

theorem pad_injective (width : Nat) : Function.Injective (pad width .zero) :=
  Function.LeftInverse.injective (g := fun ds => Nat.ofDigitChars 10 ds 0) (ofDigitChars_pad width)

theorem notMem_pad {width : Nat} (hc : c.isDigit = false) : c ∉ pad width .zero n := fun h =>
  absurd (isDigit_of_mem_pad h) (by rw [hc]; decide)

theorem notMem_yearText (hc : c.isDigit = false) (hplus : c ≠ '+') : c ∉ yearText .zero year := by
  rw [yearText]
  split
  · rw [List.mem_cons, not_or]
    exact ⟨hplus, notMem_pad hc⟩
  · exact notMem_pad hc

theorem yearText_injective : Function.Injective (yearText .zero) := by
  intro year year' h
  rw [yearText, yearText] at h
  have hsign : ∀ {n n' : Nat}, '+' :: pad 4 .zero n ≠ pad 4 .zero n' := fun h =>
    notMem_pad (c := '+') rfl (h ▸ List.mem_cons_self)
  split at h <;> split at h
  · exact pad_injective 4 (List.cons.inj h).2
  · exact absurd h hsign
  · exact absurd h.symm hsign
  · exact pad_injective 4 h

end DateFormat

namespace Moment

open DateFormat

/-- **The date and the time of day tell a moment to the second.** -/
theorem seconds_eq_of_clock {t t' : Moment} (hdate : t.date = t'.date) (hhour : t.hour = t'.hour)
    (hminute : t.minute = t'.minute) (hsecond : t.second = t'.second) :
    t.seconds = t'.seconds := by
  have hdays : t.days = t'.days := Date.ofDays_injective hdate
  simp only [days, hour, minute, second] at hdays hhour hminute hsecond
  omega

/-- The date and the time of day as they are written. -/
theorem toList_format_clock (t : Moment) : (t.format "%Y-%m-%d %H:%M:%S").toList =
    yearText .zero t.date.year ++ '-' :: (pad 2 .zero t.date.month ++ '-' ::
      (pad 2 .zero t.date.day ++ ' ' :: (pad 2 .zero t.hour ++ ':' ::
        (pad 2 .zero t.minute ++ ':' :: pad 2 .zero t.second)))) := by
  have hitems : items "%Y-%m-%d %H:%M:%S" = [zeros .year, char '-', zeros .month, char '-',
      zeros .day, char ' ', zeros .hour, char ':', zeros .minute, char ':', zeros .second] := by
    decide
  rw [format, hitems, String.toList_ofList]
  simp [zeros, char, item, quantity]

/-- **What is written of a moment tells it to the second.** -/
theorem format_clock_eq_iff {t t' : Moment} :
    t.format "%Y-%m-%d %H:%M:%S" = t'.format "%Y-%m-%d %H:%M:%S" ↔ t.seconds = t'.seconds := by
  constructor
  · intro h
    have htext := congrArg String.toList h
    rw [toList_format_clock, toList_format_clock] at htext
    obtain ⟨hyear, htext⟩ := Text.eq_of_append_cons_eq (notMem_yearText rfl (by decide))
      (notMem_yearText rfl (by decide)) htext
    obtain ⟨hmonth, htext⟩ := Text.eq_of_append_cons_eq (notMem_pad rfl) (notMem_pad rfl) htext
    obtain ⟨hday, htext⟩ := Text.eq_of_append_cons_eq (notMem_pad rfl) (notMem_pad rfl) htext
    obtain ⟨hhour, htext⟩ := Text.eq_of_append_cons_eq (notMem_pad rfl) (notMem_pad rfl) htext
    obtain ⟨hminute, hsecond⟩ := Text.eq_of_append_cons_eq (notMem_pad rfl) (notMem_pad rfl) htext
    have hdate : t.date = t'.date :=
      Date.ext (yearText_injective hyear) (pad_injective 2 hmonth) (pad_injective 2 hday)
    exact seconds_eq_of_clock hdate (pad_injective 2 hhour) (pad_injective 2 hminute)
      (pad_injective 2 hsecond)
  · intro h
    apply String.toList_inj.mp
    simp only [toList_format_clock, date, days, hour, minute, second, h]

end Moment

end LogSift
