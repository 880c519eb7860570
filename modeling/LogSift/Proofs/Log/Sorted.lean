import LogSift.Proofs.Log.Numbers
/-!
# Sorting by fields

Two lines are compared by their values of one field after the other, a
missing value coming last, and by their numbers in the end. So the first
field in which they differ decides (`Line.Precedes`, `compareBy_eq_lt`),
and that is a strict order, which tells any two lines apart whose numbers
differ (`precedes_or_precedes`). Lines with different numbers can be put
in this order in one way only (`eq_sortByFields`): how they were arranged
before cannot be seen after they have been sorted (`sortByFields_congr`).
-/


namespace LogSift

namespace Line

variable {field : String} {fields rest : List String} {a b c : Line} {x y : Option String}

/-! ## Values of a field -/

/-- The order of two values of a field. -/
def compareValue : Option String → Option String → Ordering
  | some x, some y => compare x y
  | some _, none => .lt
  | none, some _ => .gt
  | none, none => .eq

/-- **The one value comes before the other**: it is the smaller one, or the
other is missing. -/
def Sooner : Option String → Option String → Prop
  | some x, some y => x < y
  | some _, none => True
  | none, _ => False

theorem compareValue_eq_lt : compareValue x y = .lt ↔ Sooner x y := by
  rcases x with _ | x <;> rcases y with _ | y
  · exact iff_of_false nofun id
  · exact iff_of_false nofun id
  · exact iff_of_true rfl trivial
  · exact compareOfLessAndEq_eq_lt

theorem compareValue_eq_eq : compareValue x y = .eq ↔ x = y := by
  cases x <;> cases y <;> simp [compareValue]

instance : Std.TransCmp compareValue where
  eq_swap {x y} := by
    cases x <;> cases y <;> try rfl
    exact Std.OrientedOrd.eq_swap
  isLE_trans {x y z} hxy hyz := by
    cases x <;> cases y <;> cases z <;> try trivial
    exact Std.TransOrd.isLE_trans hxy hyz

/-! ## The order of two lines -/

theorem compareBy_cons (field : String) (rest : List String) :
    compareBy (field :: rest) =
      compareLex (fun a b => compareValue (a.field? field) (b.field? field)) (compareBy rest) := by
  funext a b
  rw [compareBy, compareLex]
  rcases a.field? field with _ | x <;> rcases b.field? field with _ | y
  · rfl
  · rfl
  · rfl
  · -- only equal values leave it to the other fields
    by_cases h : x = y
    · simp [compareValue, h]
    · have hne : compare x y ≠ .eq := mt Std.LawfulEqOrd.compare_eq_iff_eq.mp h
      cases hxy : compare x y <;> simp_all [compareValue]

/-- **A comparison by fields is one of a total order** on classes of lines. -/
instance (fields : List String) : Std.TransCmp (compareBy fields) := by
  induction fields with
  | nil => exact inferInstanceAs (Std.TransCmp (compareOn fun l : Line => l.number))
  | cons field rest ih =>
    have hvalue : Std.TransCmp fun a b : Line => compareValue (a.field? field) (b.field? field) :=
      { eq_swap := Std.OrientedCmp.eq_swap
        isLE_trans := Std.TransCmp.isLE_trans }
    rw [compareBy_cons]
    infer_instance

/-- **The one line comes before the other** by a list of fields: it has the
value that comes first in the first field in which they differ, or they
differ in none and its number is the smaller one. -/
def Precedes (fields : List String) (a b : Line) : Prop :=
  (∃ agreed field rest, fields = agreed ++ field :: rest ∧
    (∀ f ∈ agreed, a.field? f = b.field? f) ∧ Sooner (a.field? field) (b.field? field)) ∨
  (∀ f ∈ fields, a.field? f = b.field? f) ∧ a.number < b.number

theorem precedes_nil : Precedes [] a b ↔ a.number < b.number := by
  simp [Precedes]

theorem precedes_cons : Precedes (field :: rest) a b ↔
    Sooner (a.field? field) (b.field? field) ∨
      a.field? field = b.field? field ∧ Precedes rest a b := by
  constructor
  · rintro (⟨agreed, first, more, hfields, hagreed, hsooner⟩ | ⟨hsame, hnumber⟩)
    · rcases agreed with _ | ⟨g, agreed⟩
      · obtain ⟨rfl, -⟩ := List.cons.inj hfields
        exact Or.inl hsooner
      · obtain ⟨rfl, rfl⟩ := List.cons.inj hfields
        obtain ⟨hfield, hagreed⟩ := List.forall_mem_cons.mp hagreed
        exact Or.inr ⟨hfield, Or.inl ⟨agreed, first, more, rfl, hagreed, hsooner⟩⟩
    · obtain ⟨hfield, hsame⟩ := List.forall_mem_cons.mp hsame
      exact Or.inr ⟨hfield, Or.inr ⟨hsame, hnumber⟩⟩
  · rintro (hsooner | ⟨hfield, ⟨agreed, first, more, rfl, hagreed, hsooner⟩ | ⟨hsame, hnumber⟩⟩)
    · exact Or.inl ⟨[], field, rest, rfl, List.forall_mem_nil _, hsooner⟩
    · exact Or.inl ⟨field :: agreed, first, more, rfl,
        List.forall_mem_cons.mpr ⟨hfield, hagreed⟩, hsooner⟩
    · exact Or.inr ⟨List.forall_mem_cons.mpr ⟨hfield, hsame⟩, hnumber⟩

/-- **The first field in which two lines differ decides.** -/
theorem compareBy_eq_lt : compareBy fields a b = .lt ↔ Precedes fields a b := by
  induction fields with
  | nil => rw [precedes_nil, compareBy, Nat.compare_eq_lt]
  | cons field rest ih =>
    rw [compareBy_cons, compareLex, Ordering.then_eq_lt, compareValue_eq_lt, compareValue_eq_eq,
      ih, precedes_cons]

theorem compareBy_eq_gt : compareBy fields a b = .gt ↔ Precedes fields b a := by
  rw [Std.OrientedCmp.gt_iff_lt, compareBy_eq_lt]

theorem compareBy_bne_gt : (compareBy fields a b != .gt) = true ↔ ¬ Precedes fields b a := by
  rw [bne_iff_ne, ne_eq, compareBy_eq_gt]

theorem number_eq_of_compareBy (h : compareBy fields a b = .eq) : a.number = b.number := by
  induction fields with
  | nil => exact Nat.compare_eq_eq.mp h
  | cons field rest ih =>
    rw [compareBy_cons, compareLex_eq_eq] at h
    exact ih h.2

instance (fields : List String) : DecidableRel (Precedes fields) := fun _ _ =>
  decidable_of_iff _ compareBy_eq_lt

theorem Precedes.trans (hab : Precedes fields a b) (hbc : Precedes fields b c) :
    Precedes fields a c := by
  rw [← compareBy_eq_lt] at hab hbc ⊢
  exact Std.TransCmp.lt_trans hab hbc

theorem Precedes.asymm (h : Precedes fields a b) : ¬ Precedes fields b a := by
  rw [← compareBy_eq_lt] at h ⊢
  exact Std.OrientedCmp.not_lt_of_lt h

/-- **Lines with different numbers are told apart**, whatever fields they
lack. -/
theorem precedes_or_precedes (h : a.number ≠ b.number) :
    Precedes fields a b ∨ Precedes fields b a := by
  rw [← compareBy_eq_lt, ← compareBy_eq_gt]
  cases hab : compareBy fields a b with
  | lt => exact Or.inl rfl
  | eq => exact absurd (number_eq_of_compareBy hab) h
  | gt => exact Or.inr rfl

end Line

namespace Log

open Line (Precedes)

variable {fields : List String} {log other : Log}

theorem sortByFields_perm (fields : List String) (log : Log) :
    (log.sortByFields fields).Perm log :=
  List.mergeSort_perm _ _

/-- **Sorted lines are in order**, if each has a number of its own. -/
theorem pairwise_sortByFields (fields : List String) (h : log.numbers.Nodup) :
    (log.sortByFields fields).Pairwise (Precedes fields) := by
  have hsorted : (log.sortByFields fields).Pairwise fun a b =>
      (Line.compareBy fields a b != .gt) = true := by
    refine List.pairwise_mergeSort (fun a b c hab hbc => ?_) (fun a b => ?_) log
    · simp only [bne_iff_ne, ← Ordering.isLE_iff_ne_gt] at hab hbc ⊢
      exact Std.TransCmp.isLE_trans hab hbc
    · rw [Bool.or_eq_true, Line.compareBy_bne_gt, Line.compareBy_bne_gt]
      exact (Decidable.em (Precedes fields b a)).elim (fun hba => Or.inr hba.asymm) Or.inl
  have hnumbers : (log.sortByFields fields).Pairwise fun a b => a.number ≠ b.number :=
    List.pairwise_map.mp (((sortByFields_perm fields log).map _).nodup_iff.mpr h)
  refine (hsorted.and hnumbers).imp fun {a b} hab => ?_
  obtain ⟨hle, hne⟩ := hab
  exact (Line.precedes_or_precedes hne).resolve_right (Line.compareBy_bne_gt.mp hle)

/-- **Lines can be put in order in one way only.** -/
theorem eq_sortByFields (h : log.numbers.Nodup) (hperm : other.Perm log)
    (hother : other.Pairwise (Precedes fields)) : other = log.sortByFields fields :=
  List.Perm.eq_of_pairwise (fun _ _ _ _ hab hba => absurd hba hab.asymm) hother
    (pairwise_sortByFields fields h) (hperm.trans (sortByFields_perm fields log).symm)

/-- **How lines were arranged** cannot be seen after they have been sorted. -/
theorem sortByFields_congr (fields : List String) (h : log.numbers.Nodup)
    (hperm : other.Perm log) : other.sortByFields fields = log.sortByFields fields := by
  have hnumbers : other.numbers.Nodup := (hperm.map _).nodup_iff.mpr h
  exact eq_sortByFields h ((sortByFields_perm fields other).trans hperm)
    (pairwise_sortByFields fields hnumbers)

end Log

end LogSift
