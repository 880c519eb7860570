import LogSift.Files.Glob
/-!
# The order in which files are loaded

Files are loaded in the order in which they were created, and files of one
time in the order of their paths (`Glob.Precedes`). That is a total preorder,
so the files that a pattern leads to come in it (`pairwise_files`), each of
them as often as the pattern leads there (`files_perm`).
-/


namespace LogSift

namespace Glob

variable {f : Files} {a b c : Place}

/-- **The one place comes before the other**: its file is older, or as old and its path is not
greater. -/
def Precedes (f : Files) (a b : Place) : Prop :=
  f.created a.location < f.created b.location ∨
    f.created a.location = f.created b.location ∧ ¬ Path.key b.path < Path.key a.path

theorem precedes_iff : precedes f a b = true ↔ Precedes f a b := by
  simp only [precedes, Precedes, Bool.or_eq_true, Bool.and_eq_true, decide_eq_true_eq,
    Bool.not_eq_true', decide_eq_false_iff_not]

theorem Precedes.trans (hab : Precedes f a b) (hbc : Precedes f b c) : Precedes f a c := by
  rcases hab with hab | ⟨hab, hpath⟩
  · rcases hbc with hbc | ⟨hbc, -⟩
    · exact Or.inl (Nat.lt_trans hab hbc)
    · exact Or.inl (hbc ▸ hab)
  · rcases hbc with hbc | ⟨hbc, hpath'⟩
    · exact Or.inl (hab ▸ hbc)
    · exact Or.inr ⟨hab.trans hbc, List.le_trans hpath hpath'⟩

theorem precedes_or_precedes (f : Files) (a b : Place) : Precedes f a b ∨ Precedes f b a := by
  rcases Nat.lt_trichotomy (f.created a.location) (f.created b.location) with h | h | h
  · exact Or.inl (Or.inl h)
  · -- of files of one time the paths decide
    exact (List.le_total (Path.key a.path) (Path.key b.path)).imp
      (fun hpath => Or.inr ⟨h, hpath⟩) fun hpath => Or.inr ⟨h.symm, hpath⟩
  · exact Or.inr (Or.inl h)

/-- **The files come in their order.** -/
theorem pairwise_files (f : Files) (g : Glob) : (g.files f).Pairwise (Precedes f) := by
  rw [files]
  split
  · exact List.Pairwise.nil
  · refine (List.pairwise_mergeSort (fun a b c hab hbc => ?_) (fun a b => ?_) _).imp precedes_iff.mp
    · exact precedes_iff.mpr ((precedes_iff.mp hab).trans (precedes_iff.mp hbc))
    · simpa only [Bool.or_eq_true, precedes_iff] using precedes_or_precedes f a b

/-- **They are the files among the places that the pattern leads to**, none if it asks for
directories. -/
theorem files_perm (f : Files) (g : Glob) :
    (g.files f).Perm ((walk f g.components (start f g)).filter fun p =>
      !g.directories && f.isFile p.location) := by
  rw [files]
  split
  · rename_i hdirectories
    simp [hdirectories]
  · rename_i hfiles
    simp only [hfiles, Bool.not_false, Bool.true_and]
    exact List.mergeSort_perm ..

end Glob

end LogSift
