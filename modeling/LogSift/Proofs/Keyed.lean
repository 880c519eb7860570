import LogSift.Keyed
/-!
# Looking up values under names

A value that is put under a name is found there, and what is found under
another name stays (`find?_insert`). Of several values put in one after the
other, the last one under a name is found (`find?_insertAll`).

Names are listed in their order, each of them once (`Ordered`), if that
is how they were listed before (`Ordered.insert`); and then what is listed
is what is found (`Ordered.mem_entries`).
-/


namespace LogSift

namespace Keyed

variable {α : Type} {k : Keyed α} {name other : String} {value : α}

@[simp] theorem find?_empty (name : String) : (empty : Keyed α).find? name = none := rfl

theorem find?_of_isEmpty (h : k.isEmpty = true) (name : String) : k.find? name = none := by
  rw [find?, List.isEmpty_iff.mp h]
  rfl

theorem find?_insert (k : Keyed α) (name : String) (value : α) (other : String) :
    (k.insert name value).find? other = if other = name then some value else k.find? other := by
  obtain ⟨entries⟩ := k
  simp only [find?, insert]
  induction entries with
  | nil =>
    by_cases h : other = name
    · simp [insertEntry, h]
    · simp [insertEntry, h, Ne.symm h]
  | cons e rest ih =>
    obtain ⟨n, v⟩ := e
    rw [insertEntry]
    -- the value takes the place of one under its name, goes before a later name, or further on
    by_cases hsame : name = n
    · subst hsame
      by_cases h : other = name
      · simp [h]
      · simp [h, Ne.symm h]
    · rw [if_neg hsame]
      by_cases h : other = name
      · subst h
        split
        · simp
        · simpa [Ne.symm hsame] using ih
      · rw [if_neg h] at ih ⊢
        split
        · simp [Ne.symm h]
        · by_cases hn : n = other
          · simp [hn]
          · simpa [hn] using ih

theorem find?_insertAll (k : Keyed α) (pairs : List (String × α)) (name : String) :
    (k.insertAll pairs).find? name =
      ((pairs.reverse.find? (·.1 = name)).map (·.2)).or (k.find? name) := by
  induction pairs generalizing k with
  | nil => rfl
  | cons p pairs ih =>
    rw [insertAll, List.foldl_cons, ← insertAll, ih, find?_insert, List.reverse_cons,
      List.find?_append]
    rcases hlater : pairs.reverse.find? (fun q => decide (q.1 = name)) with _ | found
    · by_cases h : p.1 = name
      · simp [hlater, h]
      · simp [hlater, h, Ne.symm h]
    · simp [hlater]

/-! ## The order of the names -/

/-- **The names are in order**, and each of them is there once. -/
def Ordered (k : Keyed α) : Prop := k.entries.Pairwise (·.1 < ·.1)

theorem ordered_empty : (empty : Keyed α).Ordered := List.Pairwise.nil

theorem mem_insertEntry {e : String × α} {entries : List (String × α)}
    (h : e ∈ insertEntry name value entries) : e.1 = name ∨ e ∈ entries := by
  induction entries with
  | nil => exact Or.inl (congrArg Prod.fst (List.mem_singleton.mp h))
  | cons first rest ih =>
    obtain ⟨n, v⟩ := first
    rw [insertEntry] at h
    split at h
    · exact (List.mem_cons.mp h).imp (congrArg Prod.fst) (List.mem_cons_of_mem _)
    split at h
    · exact (List.mem_cons.mp h).imp_left (congrArg Prod.fst)
    · rcases List.mem_cons.mp h with rfl | hlater
      · exact Or.inr (List.mem_cons_self ..)
      · exact (ih hlater).imp_right (List.mem_cons_of_mem _)

/-- **A value is put in at the place of its name.** -/
theorem Ordered.insert (h : k.Ordered) (name : String) (value : α) :
    (k.insert name value).Ordered := by
  obtain ⟨entries⟩ := k
  simp only [Ordered, Keyed.insert] at h ⊢
  induction entries with
  | nil => exact List.pairwise_singleton ..
  | cons first rest ih =>
    obtain ⟨n, v⟩ := first
    obtain ⟨hfirst, hrest⟩ := List.pairwise_cons.mp h
    rw [insertEntry]
    split
    · rename_i hsame
      exact List.pairwise_cons.mpr ⟨hsame ▸ hfirst, hrest⟩
    rename_i hne
    split
    · rename_i hbefore
      refine List.pairwise_cons.mpr ⟨fun e he => ?_, h⟩
      rcases List.mem_cons.mp he with rfl | he
      · exact hbefore
      · exact String.lt_trans hbefore (hfirst e he)
    · rename_i hnot
      have hafter : n < name := Std.lt_of_le_of_ne (String.not_lt.mp hnot) (Ne.symm hne)
      refine List.pairwise_cons.mpr ⟨fun e he => ?_, ih hrest⟩
      rcases mem_insertEntry he with hname | he
      · exact hname ▸ hafter
      · exact hfirst e he

/-- **What is listed is what is found.** -/
theorem Ordered.mem_entries (h : k.Ordered) :
    (name, value) ∈ k.entries ↔ k.find? name = some value := by
  obtain ⟨entries⟩ := k
  simp only [Ordered, find?] at h ⊢
  induction entries with
  | nil => simp
  | cons first rest ih =>
    obtain ⟨hfirst, hrest⟩ := List.pairwise_cons.mp h
    by_cases hsame : first.1 = name
    · -- nothing further on has the name
      have hlater : (name, value) ∉ rest := by
        intro hmem
        have hlt : first.1 < name := hfirst _ hmem
        exact String.lt_irrefl name (hsame ▸ hlt)
      rw [List.mem_cons, or_iff_left hlater, List.find?_cons_of_pos (by simpa using hsame),
        Option.map_some, Option.some_inj, Prod.ext_iff, and_iff_right hsame.symm]
      exact eq_comm
    · have hne : (name, value) ≠ first := fun heq => hsame (congrArg Prod.fst heq).symm
      rw [List.mem_cons, or_iff_right hne, List.find?_cons_of_neg (by simpa using hsame)]
      exact ih hrest

end Keyed

end LogSift
