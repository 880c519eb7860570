import LogSift.Proofs.Log.Sorted
import LogSift.Proofs.Session.Numbers
/-!
# Sorting over whole sessions

After any scripts, run and taken back, no two lines share a number
(`after_nodup`). So the order of any list of fields tells all lines of a
log apart, and what `sort` leaves depends on the lines alone
(`sort_canonical`).
-/


namespace LogSift

namespace Session

open Line (Precedes)

/-- No two lines of a session share a number. -/
theorem after_nodup (settings : Settings) (budget : Nat) (steps : List Step) :
    ((start settings budget).after steps).workspace.log.numbers.Nodup :=
  (after_invariant (P := fun w => w.log.NumberedOnce)
    (fun world _ d h => Script.step_numberedOnce h world d) (List.Perm.refl _) budget steps).nodup

/-- **Sorting is canonical.** Lines are compared by the first field in which they differ, a missing
value coming last, and by their numbers if there is none. This is a strict order, and total on lines
with different numbers, as the lines of every session have. Such lines are sorted into the one
arrangement that is in order. So it makes no difference how they were arranged, by what they
were sorted before or if they have been sorted already, and to sort by no field puts them back in
the order of their numbers. -/
theorem sort_canonical (fields : List String) :
    ((∀ a b : Line, Line.compareBy fields a b = .lt ↔ Precedes fields a b) ∧
      (∀ a b : Line, Line.compareBy fields a b = .gt ↔ Precedes fields b a) ∧
      (∀ a b c : Line, Precedes fields a b → Precedes fields b c → Precedes fields a c) ∧
      (∀ a b : Line, Precedes fields a b → ¬ Precedes fields b a) ∧
      (∀ a b : Line, a.number ≠ b.number → Precedes fields a b ∨ Precedes fields b a)) ∧
    (∀ (settings : Settings) (budget : Nat) (steps : List Step),
      ((start settings budget).after steps).workspace.log.numbers.Nodup) ∧
    ∀ log : Log, log.numbers.Nodup →
      ((log.sortByFields fields).Perm log ∧ (log.sortByFields fields).Pairwise (Precedes fields) ∧
        ∀ other : Log, other.Perm log → other.Pairwise (Precedes fields) →
          other = log.sortByFields fields) ∧
      (∀ other : Log, other.Perm log → other.sortByFields fields = log.sortByFields fields) ∧
      (∀ before : List String,
        (log.sortByFields before).sortByFields fields = log.sortByFields fields) ∧
      (log.sortByFields fields).sortByFields fields = log.sortByFields fields ∧
      (log.sortByFields []).Pairwise (fun a b => a.number < b.number) ∧
      (log.Pairwise (fun a b => a.number < b.number) →
        (log.sortByFields fields).sortByFields [] = log) := by
  refine ⟨⟨fun a b => Line.compareBy_eq_lt, fun a b => Line.compareBy_eq_gt,
    fun a b c => Precedes.trans, fun a b => Precedes.asymm, fun a b => Line.precedes_or_precedes⟩,
    after_nodup, fun log h => ?_⟩
  have hresorted : ∀ before later : List String,
      (log.sortByFields before).sortByFields later = log.sortByFields later := fun before later =>
    Log.sortByFields_congr later h (Log.sortByFields_perm before log)
  have hnumber : ∀ a b : Line, Precedes [] a b ↔ a.number < b.number := fun _ _ =>
    Line.precedes_nil
  refine ⟨⟨Log.sortByFields_perm fields log, Log.pairwise_sortByFields fields h,
    fun other => Log.eq_sortByFields h⟩, fun other => Log.sortByFields_congr fields h,
    fun before => hresorted before fields, hresorted fields fields, ?_, fun hordered => ?_⟩
  · exact (Log.pairwise_sortByFields [] h).imp fun {a b} => (hnumber a b).mp
  · rw [hresorted]
    exact (Log.eq_sortByFields h (List.Perm.refl log)
      (hordered.imp fun {a b} => (hnumber a b).mpr)).symm

/-- Each line lacks another field, and one has neither. -/
theorem sort_canonical_of_missing :
    let line (number : Nat) (fields : List (String × String)) : Line :=
      { Line.ofText "a" number with fields := Keyed.ofList fields }
    let user : Line := line 4 [("user", "x")]
    let both : Line := line 3 [("id", "7"), ("user", "y")]
    let id : Line := line 2 [("id", "7")]
    let neither : Line := line 1 []
    let log : Log := [neither, id, both, user]
    log.numbers.Nodup ∧ log.sortByFields ["id", "user"] = [both, id, user, neither] ∧
      (log.sortByFields ["user"]).sortByFields ["id", "user"] = [both, id, user, neither] ∧
      (log.sortByFields ["id", "user"]).sortByFields [] = log := by
  intro line user both id neither log
  have hnodup : log.numbers.Nodup := by decide
  obtain ⟨-, -, hlog⟩ := sort_canonical ["id", "user"]
  obtain ⟨⟨-, -, honly⟩, -, hbefore, -, -, hrestored⟩ := hlog log hnodup
  have hsorted : [both, id, user, neither] = log.sortByFields ["id", "user"] :=
    honly _ (by decide) (by decide)
  exact ⟨hnodup, hsorted.symm, (hbefore ["user"]).trans hsorted.symm, hrestored (by decide)⟩

end Session

end LogSift
