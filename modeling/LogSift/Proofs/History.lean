import LogSift.History
/-!
# What a history keeps

The history gives up its oldest snapshots first and never the newest, so
a push leaves an end of the old snapshots with the new one behind it
(`push_snapshots`), whatever the budget. A pop takes the last one.
-/


namespace LogSift

namespace History

/-- **Eviction keeps the newest**: of some snapshots and a last one, an end
of the former stays, and the last one does. -/
theorem evict_append (budget total : Nat) (snapshots : List Snapshot) (s : Snapshot) :
    ∃ kept, kept <:+ snapshots ∧
      (evict budget total (snapshots ++ [s])).2 = kept ++ [s] := by
  induction snapshots generalizing total with
  | nil => exact ⟨[], List.suffix_rfl, by simp [evict]⟩
  | cons t snapshots ih =>
    by_cases hover : budget < total
    · -- the oldest is given up, with the last one still behind it
      obtain ⟨kept, hkept, heq⟩ := ih (total - t.size)
      refine ⟨kept, hkept.trans (List.suffix_cons t snapshots), ?_⟩
      rw [← heq]
      cases snapshots <;> simp [evict, hover]
    · refine ⟨t :: snapshots, List.suffix_rfl, ?_⟩
      cases snapshots <;> simp [evict, hover]

/-- A push puts the new snapshot at the end of an end of the old ones. -/
theorem push_snapshots (h : History) (time : Moment) (label : String) (w : Workspace) :
    ∃ kept, kept <:+ h.snapshots ∧
      (h.push time label w).snapshots = kept ++ [⟨h.nextId, time, label, w⟩] :=
  evict_append _ _ _ _

@[simp] theorem push_nextId (h : History) (time : Moment) (label : String) (w : Workspace) :
    (h.push time label w).nextId = h.nextId + 1 := rfl

/-- **A pop takes the last snapshot**, and fails iff there is none. -/
theorem pop?_eq (h : History) :
    h.pop? = h.snapshots.getLast?.map fun s =>
      (s, { h with snapshots := h.snapshots.dropLast, total := h.total - s.size }) := rfl

end History

end LogSift
