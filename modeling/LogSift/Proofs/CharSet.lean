import Mathlib.Data.List.Basic
import LogSift.CharSet
/-!
# What a union of sets holds

A range that is put into an ordered list may be joined to others; what the
list holds is the same as if it stood beside them (`CharSet.any_insertRange`).
So a union holds what either set holds (`CharSet.contains_union`), and what
any of several holds (`CharSet.contains_unions`).
-/


namespace LogSift

namespace CharSet

variable {n lo hi : Nat} {ch : Char}

/-- An ordered list takes in a range, whatever is joined. -/
theorem any_insertRange (ranges : List (Nat × Nat)) :
    (insertRange lo hi ranges).any (fun r => r.1 ≤ n && n ≤ r.2) =
      (decide (lo ≤ n) && decide (n ≤ hi) || ranges.any fun r => r.1 ≤ n && n ≤ r.2) := by
  fun_induction insertRange lo hi ranges with
  | case1 => simp
  | case2 => simp
  | case3 lo hi a b rest _ _ ih =>
    rw [List.any_cons, ih, List.any_cons, Bool.or_left_comm]
  | case4 lo hi a b rest hfirst hsecond ih =>
    rw [ih, List.any_cons, ← Bool.or_assoc]
    congr 1
    rw [Bool.eq_iff_iff]
    simp only [Bool.and_eq_true, Bool.or_eq_true, decide_eq_true_eq]
    omega

theorem contains_single (d : Char) : (single d).contains ch = decide (ch = d) := by
  rw [single, range, if_pos (Nat.le_refl _), contains, containsCode, List.any_cons, List.any_nil,
    Bool.or_false, Bool.eq_iff_iff]
  simp only [Bool.and_eq_true, decide_eq_true_eq, ← Char.toNat_inj]
  omega

theorem containsCode_union (s t : CharSet) :
    (s.union t).containsCode n = (s.containsCode n || t.containsCode n) := by
  obtain ⟨ranges⟩ := t
  induction ranges with
  | nil => simp [union, containsCode]
  | cons r ranges ih =>
    simp only [containsCode, union, List.foldr_cons, List.any_cons] at ih ⊢
    rw [any_insertRange, ih, Bool.or_left_comm]

theorem contains_union (s t : CharSet) :
    (s.union t).contains ch = (s.contains ch || t.contains ch) :=
  containsCode_union s t

theorem contains_union_left {s : CharSet} (h : s.contains ch = true) (t : CharSet) :
    (s.union t).contains ch = true := by
  rw [contains_union, h, Bool.true_or]

/-- **A union holds what any of its sets holds.** -/
theorem contains_unions (sets : List CharSet) :
    (unions sets).contains ch = true ↔ ∃ s ∈ sets, s.contains ch = true := by
  induction sets with
  | nil => simp [unions, contains, containsCode, empty]
  | cons s sets ih =>
    have hunions : unions (s :: sets) = (unions sets).union s := rfl
    rw [hunions, contains_union, Bool.or_eq_true, List.exists_mem_cons_iff, or_comm]
    exact or_congr_right ih

end CharSet

end LogSift
