import Mathlib.Data.List.Induction
import Mathlib.Data.List.Sort
import Mathlib.Logic.ExistsUnique
import LogSift.Log.Duplicate
import LogSift.Proofs.Keyed
/-!
# Summaries of repeated lines

A kind of line is summarized if more lines than a threshold are of it, and its
summary comes before those of kinds with fewer lines, or with as many but with
a text that comes later. This is a ranking of the kinds (`Ranking`), of which
there is one for every log (`existsUnique_ranking`): the tally has the number of
each kind in the order of the texts, and sorting by numbers keeps that order
where numbers are the same. The log gets the summaries of the kinds in it at the
top (`detectDuplicates_of_ranking`). A larger threshold only makes the ranking
end earlier (`Ranking.isPrefix`).
-/


namespace LogSift

namespace Log

variable {threshold more : Nat} {normalize : String → String} {log : Log} {key : String} {n : Nat}
variable {kinds other : List (String × Nat)}

/-! ## Counting the kinds -/

/-- **How many lines are of a kind**, hidden ones among them. -/
def multiplicity (normalize : String → String) (log : Log) (key : String) : Nat :=
  log.countP fun l => normalize l.text = key

theorem multiplicity_concat (normalize : String → String) (log : Log) (l : Line) (key : String) :
    multiplicity normalize (log ++ [l]) key =
      multiplicity normalize log key + if normalize l.text = key then 1 else 0 := by
  simp [multiplicity, List.countP_append, List.countP_singleton]

theorem tally_concat (normalize : String → String) (log : Log) (l : Line) :
    tally normalize (log ++ [l]) = (tally normalize log).insert (normalize l.text)
      (((tally normalize log).find? (normalize l.text)).getD 0 + 1) :=
  List.foldl_concat ..

theorem ordered_tally (normalize : String → String) (log : Log) :
    (tally normalize log).Ordered := by
  induction log using List.reverseRecOn with
  | nil => exact Keyed.ordered_empty
  | append_singleton log l ih =>
    rw [tally_concat]
    exact ih.insert ..

/-- **The tally has the number of each kind** of which there are lines. -/
theorem find?_tally (normalize : String → String) (log : Log) (key : String) :
    (tally normalize log).find? key =
      if multiplicity normalize log key = 0 then none
      else some (multiplicity normalize log key) := by
  induction log using List.reverseRecOn generalizing key with
  | nil => rfl
  | append_singleton log l ih =>
    have hcount : ((tally normalize log).find? (normalize l.text)).getD 0 =
        multiplicity normalize log (normalize l.text) := by
      rw [ih]
      split
      · exact Eq.symm ‹_›
      · rfl
    rw [tally_concat, Keyed.find?_insert, hcount, multiplicity_concat]
    -- one more line counts for its own kind only
    by_cases h : key = normalize l.text
    · simp [h]
    · rw [if_neg h, if_neg (Ne.symm h), ih, Nat.add_zero]

theorem mem_tally : (key, n) ∈ (tally normalize log).entries ↔
    n = multiplicity normalize log key ∧ 0 < n := by
  rw [(ordered_tally normalize log).mem_entries, find?_tally]
  split
  · simp only [reduceCtorEq, false_iff]
    omega
  · rw [Option.some_inj]
    omega

/-! ## Ranking the kinds -/

/-- **The one kind goes before the other**: there are more lines of it, or as
many and its text comes first. -/
def Outranks (a b : String × Nat) : Prop := b.2 < a.2 ∨ a.2 = b.2 ∧ a.1 < b.1

instance : DecidableRel Outranks := fun a b =>
  inferInstanceAs (Decidable (b.2 < a.2 ∨ a.2 = b.2 ∧ a.1 < b.1))

theorem Outranks.asymm {a b : String × Nat} (h : Outranks a b) : ¬ Outranks b a := by
  rintro (hcount | ⟨hsame, htext⟩)
  · rcases h with hmore | ⟨hequal, -⟩ <;> omega
  · rcases h with hmore | ⟨-, hfirst⟩
    · omega
    · exact String.lt_irrefl _ (String.lt_trans hfirst htext)

instance : Std.Irrefl Outranks where
  irrefl _ h := h.asymm h

instance : Std.Antisymm Outranks where
  antisymm _ _ h hback := absurd hback h.asymm

/-- **The kinds with more lines than a threshold**, in their order. -/
structure Ranking (threshold : Nat) (normalize : String → String) (log : Log)
    (kinds : List (String × Nat)) : Prop where
  /-- A kind is in it with the number of its lines if that is above the threshold. -/
  mem_iff : ∀ key n, (key, n) ∈ kinds ↔ n = multiplicity normalize log key ∧ threshold < n
  ordered : kinds.Pairwise Outranks

/-- There is only one. -/
theorem Ranking.unique (h : Ranking threshold normalize log kinds)
    (hother : Ranking threshold normalize log other) : other = kinds :=
  List.Pairwise.eq_of_mem_iff hother.ordered h.ordered fun e =>
    (hother.mem_iff e.1 e.2).trans (h.mem_iff e.1 e.2).symm

/-- Sorting by numbers puts larger ones first, -/
theorem pairwise_sortByCount (entries : List (String × Nat)) :
    (entries.mergeSort fun a b => b.2 ≤ a.2).Pairwise fun a b => b.2 ≤ a.2 := by
  have hsorted : (entries.mergeSort fun a b => b.2 ≤ a.2).Pairwise fun a b =>
      decide (b.2 ≤ a.2) = true :=
    List.pairwise_mergeSort (by simp; omega) (by simp; omega) entries
  exact hsorted.imp of_decide_eq_true

/-- and leaves those with one number in the order in which they were. -/
theorem filter_sortByCount (entries : List (String × Nat)) (n : Nat) :
    (entries.mergeSort fun a b => b.2 ≤ a.2).filter (·.2 = n) = entries.filter (·.2 = n) := by
  have hequal : (entries.filter (·.2 = n)).Pairwise fun a b => decide (b.2 ≤ a.2) = true := by
    refine List.pairwise_of_forall_mem_list fun a ha b hb => ?_
    obtain rfl : a.2 = n := by simpa using (List.mem_filter.mp ha).2
    have hb : b.2 = a.2 := by simpa using (List.mem_filter.mp hb).2
    exact decide_eq_true hb.le
  -- entries with one number are in order as they are, and a stable sort does not part them
  have hkept : (entries.filter (·.2 = n)).Sublist (entries.mergeSort fun a b => b.2 ≤ a.2) :=
    List.sublist_mergeSort (by simp; omega) (by simp; omega) hequal List.filter_sublist
  have hkept := hkept.filter (·.2 = n)
  simp only [List.filter_filter, Bool.and_self] at hkept
  exact (hkept.eq_of_length ((List.mergeSort_perm ..).filter _).length_eq.symm).symm

/-- **The texts that occur often are ranked.** -/
theorem ranking_repeated (threshold : Nat) (normalize : String → String) (log : Log) :
    Ranking threshold normalize log (repeated threshold normalize log) where
  mem_iff key n := by
    rw [repeated, List.mem_mergeSort, List.mem_filter, mem_tally, decide_eq_true_iff]
    omega
  ordered := by
    rw [List.pairwise_iff_forall_sublist]
    intro a b hab
    rcases Nat.lt_or_eq_of_le (List.pairwise_iff_forall_sublist.mp (pairwise_sortByCount _) hab)
      with hless | hequal
    · exact Or.inl hless
    · -- kinds with one number have come out of the tally in the order of their texts
      have hboth := hab.filter (·.2 = a.2)
      rw [List.filter_eq_self.mpr (by simp [hequal]), repeated, filter_sortByCount,
        List.filter_filter] at hboth
      have htexts := (ordered_tally normalize log).sublist (hboth.trans List.filter_sublist)
      exact Or.inr ⟨hequal.symm, List.rel_of_pairwise_cons htexts (List.mem_singleton_self b)⟩

/-- **Every log has one ranking.** -/
theorem existsUnique_ranking (threshold : Nat) (normalize : String → String) (log : Log) :
    ∃! kinds, Ranking threshold normalize log kinds :=
  ⟨_, ranking_repeated threshold normalize log, fun _ => (ranking_repeated ..).unique⟩

/-- The part of a list with some property, where that is lost for good, is its beginning. -/
theorem filter_isPrefix {α : Type} {p : α → Bool} {as : List α}
    (h : as.Pairwise fun a b => p b = true → p a = true) : as.filter p <+: as := by
  induction as with
  | nil => exact List.prefix_rfl
  | cons a as ih =>
    obtain ⟨ha, has⟩ := List.pairwise_cons.mp h
    by_cases hp : p a = true
    · rw [List.filter_cons_of_pos hp]
      exact List.cons_prefix_cons.mpr ⟨rfl, ih has⟩
    · have hnone : as.filter p = [] := List.filter_eq_nil_iff.mpr fun b hb => mt (ha b hb) hp
      rw [List.filter_cons_of_neg hp, hnone]
      exact List.nil_prefix

/-- **With a larger threshold the ranking ends earlier.** -/
theorem Ranking.isPrefix (h : Ranking threshold normalize log kinds)
    (hmore : Ranking more normalize log other) (hle : threshold ≤ more) : other <+: kinds := by
  -- what exceeds the larger threshold is in order as before, so it is the other ranking
  have hrest : Ranking more normalize log (kinds.filter (more < ·.2)) :=
    { mem_iff := fun key n => by
        rw [List.mem_filter, h.mem_iff, decide_eq_true_iff]
        omega
      ordered := h.ordered.sublist List.filter_sublist }
  rw [hrest.unique hmore]
  -- and who is outranked has no more lines
  refine filter_isPrefix (h.ordered.imp fun {a b} hab hb => ?_)
  rw [decide_eq_true_iff] at hb ⊢
  rcases hab with hcount | ⟨hsame, -⟩ <;> omega

/-! ## The summaries -/

/-- **The summaries of kinds of lines**, numbered from one on. -/
def summaries (kinds : List (String × Nat)) : Log :=
  kinds.mapIdx fun i e => Line.ofText s!"[{e.2} LINES LIKE THIS] {e.1}" (i + 1)

theorem length_summaries (kinds : List (String × Nat)) :
    (summaries kinds).length = kinds.length :=
  List.length_mapIdx

theorem renumber_map_summary (kinds : List (String × Nat)) :
    renumber (kinds.map summary) = summaries kinds :=
  List.ext_getElem (by simp [renumber, summaries]) fun i _ _ => by
    simp [renumber, summaries, summary, Line.ofText]

theorem summaries_isPrefix (h : other <+: kinds) : summaries other <+: summaries kinds := by
  obtain ⟨rest, rfl⟩ := h
  rw [summaries, summaries, List.mapIdx_append]
  exact List.prefix_append ..

/-- **What becomes of a log**: the summaries of the kinds in the ranking are followed by its lines,
which are numbered on. Without such kinds it stays as it is. -/
theorem detectDuplicates_of_ranking (h : Ranking threshold normalize log kinds) :
    log.detectDuplicates threshold normalize =
      if kinds = [] then (0, log)
      else (kinds.length, summaries kinds ++
        log.mapIdx fun i l => { l with number := kinds.length + i + 1 }) := by
  have hlog : renumber (kinds.map summary ++ log) = summaries kinds ++
      log.mapIdx fun i l => { l with number := kinds.length + i + 1 } := by
    rw [renumber, List.mapIdx_append, ← renumber, renumber_map_summary, List.length_map]
    simp only [Nat.add_comm _ kinds.length]
  rw [detectDuplicates, h.unique (ranking_repeated threshold normalize log), hlog]
  simp only [List.isEmpty_iff]

/-- As many lines as are counted are summaries. -/
theorem take_detectDuplicates (h : Ranking threshold normalize log kinds) :
    (log.detectDuplicates threshold normalize).2.take (log.detectDuplicates threshold normalize).1 =
      summaries kinds := by
  rw [detectDuplicates_of_ranking h]
  split
  · rename_i hnone
    rw [hnone]
    rfl
  · rw [← length_summaries kinds]
    exact List.take_left

/-- **Summaries of repeated lines are exact and in order.** There is one ranking of the kinds of
which there are more lines than the threshold, hidden ones among them, by the number of lines and
then by the text. The summaries at the top are those of this ranking, with the numbers of lines,
and as many are counted; after them come all lines as they were, but numbered on. Without any such kind
nothing changes. And the summaries for a larger threshold are the first ones. -/
theorem detectDuplicates_exact (threshold : Nat) (normalize : String → String) (log : Log) :
    (∃! kinds, Ranking threshold normalize log kinds) ∧
    (∀ kinds, Ranking threshold normalize log kinds →
      log.detectDuplicates threshold normalize =
          (if kinds = [] then (0, log)
          else (kinds.length, summaries kinds ++
            log.mapIdx fun i l => { l with number := kinds.length + i + 1 })) ∧
        (log.detectDuplicates threshold normalize).2.take
          (log.detectDuplicates threshold normalize).1 = summaries kinds) ∧
    ∀ more, threshold ≤ more →
      (log.detectDuplicates more normalize).2.take (log.detectDuplicates more normalize).1 <+:
        (log.detectDuplicates threshold normalize).2.take
          (log.detectDuplicates threshold normalize).1 := by
  refine ⟨existsUnique_ranking threshold normalize log,
    fun _ h => ⟨detectDuplicates_of_ranking h, take_detectDuplicates h⟩, fun more hle => ?_⟩
  have hranking := ranking_repeated threshold normalize log
  have hmore := ranking_repeated more normalize log
  rw [take_detectDuplicates hranking, take_detectDuplicates hmore]
  exact summaries_isPrefix (hranking.isPrefix hmore hle)

/-- There are more lines of the last text than of others, and as many of the other two. One is
hidden. -/
theorem detectDuplicates_exact_of_ties :
    let log : Log := [Line.ofText "b" 7, Line.ofText "c" 1, Line.ofText "a" 2,
      { Line.ofText "c" 3 with visible := false }, Line.ofText "a" 4, Line.ofText "b" 5,
      Line.ofText "c" 6]
    let kinds : List (String × Nat) := [("c", 3), ("a", 2), ("b", 2)]
    Ranking 1 id log kinds ∧
      (log.detectDuplicates 1 id).1 = 3 ∧
      (log.detectDuplicates 1 id).2.map (fun l => (l.text, l.number, l.visible)) =
        [("[3 LINES LIKE THIS] c", 1, true), ("[2 LINES LIKE THIS] a", 2, true),
          ("[2 LINES LIKE THIS] b", 3, true), ("b", 4, true), ("c", 5, true), ("a", 6, true),
          ("c", 7, false), ("a", 8, true), ("b", 9, true), ("c", 10, true)] ∧
      (log.detectDuplicates 1 id).2.take (log.detectDuplicates 1 id).1 = summaries kinds ∧
      1 ≤ 2 ∧
      (log.detectDuplicates 2 id).2.take (log.detectDuplicates 2 id).1 <+:
        (log.detectDuplicates 1 id).2.take (log.detectDuplicates 1 id).1 := by
  intro log kinds
  have hranking : Ranking 1 id log kinds :=
    { mem_iff := fun key n => by
        have hcount : multiplicity id log key =
            if key = "a" ∨ key = "b" then 2 else if key = "c" then 3 else 0 := by
          simp only [log, multiplicity, List.countP_cons, List.countP_nil, Line.ofText, id]
          grind
        rw [hcount]
        simp only [kinds, List.mem_cons, List.not_mem_nil, Prod.mk.injEq]
        grind
      ordered := by decide }
  obtain ⟨-, hlog, hprefix⟩ := detectDuplicates_exact 1 id log
  obtain ⟨hsummarized, hsummaries⟩ := hlog kinds hranking
  refine ⟨hranking, ?_, ?_, hsummaries, by decide, hprefix 2 (by decide)⟩
  · rw [hsummarized]
    rfl
  · rw [hsummarized]
    decide

end Log

end LogSift
