import LogSift.Proofs.Pattern.Steps
/-!
# Repetitions are read with their bounds in order

A counted repetition whose bounds run backwards is refused, and the signs
have bounds in order. So every step of the reader keeps all that has been
read in order (`State.Ordered.step`), and so is the pattern that is read
(`Expr.ordered_of_read`).
-/


namespace LogSift

namespace Pattern

variable {e : Expr} {items : List Expr} {cs left : List Char}

namespace Expr

theorem ordered_ofItems (h : ∀ e ∈ items, e.Ordered) : (ofItems items).Ordered := by
  cases items with
  | nil => trivial
  | cons last items =>
    obtain ⟨hlast, hitems⟩ := List.forall_mem_cons.mp h
    rw [ofItems]
    induction items generalizing last with
    | nil => exact hlast
    | cons e items ih =>
      obtain ⟨he, hrest⟩ := List.forall_mem_cons.mp hitems
      exact ih (seq e last) (List.forall_mem_cons.mpr ⟨⟨he, hlast⟩, hrest⟩) ⟨he, hlast⟩ hrest

theorem ordered_ofBranches (h : ∀ e ∈ items, e.Ordered) : (ofBranches items).Ordered := by
  cases items with
  | nil => trivial
  | cons last items =>
    obtain ⟨hlast, hitems⟩ := List.forall_mem_cons.mp h
    rw [ofBranches]
    induction items generalizing last with
    | nil => exact hlast
    | cons e items ih =>
      obtain ⟨he, hrest⟩ := List.forall_mem_cons.mp hitems
      exact ih (alt e last) (List.forall_mem_cons.mpr ⟨⟨he, hlast⟩, hrest⟩) ⟨he, hlast⟩ hrest

end Expr

namespace Reader

namespace State

variable {st st' : State} {c : Char}

/-- The bounds of all that has been read are in order. -/
structure Ordered (st : State) : Prop where
  items : ∀ e ∈ st.items, e.Ordered
  branches : ∀ e ∈ st.branches, e.Ordered
  outer : ∀ l ∈ st.outer, (∀ e ∈ l.items, e.Ordered) ∧ ∀ e ∈ l.branches, e.Ordered

theorem ordered_start : start.Ordered :=
  ⟨List.forall_mem_nil _, List.forall_mem_nil _, List.forall_mem_nil _⟩

/-- What the innermost group holds is in order. -/
theorem Ordered.expr (h : st.Ordered) : st.expr.Ordered := by
  rw [State.expr]
  split
  · exact Expr.ordered_ofItems h.items
  · exact Expr.ordered_ofBranches
      (List.forall_mem_cons.mpr ⟨Expr.ordered_ofItems h.items, h.branches⟩)

/-- One more part. -/
theorem Ordered.add (h : st.Ordered) (he : e.Ordered) :
    ({ st with items := e :: st.items } : State).Ordered :=
  { h with items := List.forall_mem_cons.mpr ⟨he, h.items⟩ }

theorem Ordered.enter (h : st.Ordered) (kind : GroupKind) (verbose : Bool) :
    (st.enter kind verbose).Ordered :=
  ⟨List.forall_mem_nil _, List.forall_mem_nil _,
    List.forall_mem_cons.mpr ⟨⟨h.items, h.branches⟩, h.outer⟩⟩

theorem Ordered.change (h : st.Ordered) (hchange : st.Change cs st') : st'.Ordered := by
  cases hchange with
  | atom a => exact h.add trivial
  | bracket negated set => exact h.add trivial
  | flags => exact { h.add (e := .flags _) trivial with }
  | plain => exact h.enter _ _
  | capture name names =>
    have hcaptured : ({ st with captures := st.captures + 1, names } : State).Ordered := { h with }
    exact hcaptured.enter _ _
  | close houter =>
    obtain ⟨⟨hitems, hbranches⟩, hrest⟩ := List.forall_mem_cons.mp (houter ▸ h.outer)
    refine ⟨List.forall_mem_cons.mpr ⟨?_, hitems⟩, hbranches, hrest⟩
    split <;> exact h.expr
  | branch =>
    exact ⟨List.forall_mem_nil _,
      List.forall_mem_cons.mpr ⟨Expr.ordered_ofItems h.items, h.branches⟩, h.outer⟩
  | repeated hitems hbounds =>
    obtain ⟨he, hrest⟩ := List.forall_mem_cons.mp (hitems ▸ h.items)
    exact { h with items := List.forall_mem_cons.mpr ⟨⟨hbounds, he⟩, hrest⟩ }

/-- **Each step keeps what has been read in order.** -/
theorem Ordered.step (h : st.Ordered) (hst : st.step c cs = .ok (st', left)) : st'.Ordered :=
  h.change (change_of_step hst)

/-- And so does a whole run. -/
theorem Ordered.run {n : Nat} (h : st.Ordered) (hst : st.run n cs = .ok st') : st'.Ordered := by
  induction n generalizing st cs with
  | zero =>
    obtain rfl := Except.ok.inj hst
    exact h
  | succ n ih =>
    rw [State.run] at hst
    split at hst
    · obtain rfl := Except.ok.inj hst
      exact h
    · obtain ⟨⟨next, rest⟩, hstep, hst⟩ := bind_eq_ok_iff.mp hst
      exact ih (h.step hstep) hst

end State

end Reader

/-- **A pattern that is read has the bounds of its repetitions in order.** -/
theorem Expr.ordered_of_read (h : Expr.read cs = .ok e) : e.Ordered := by
  obtain ⟨st, hst, h⟩ := bind_eq_ok_iff.mp h
  split at h
  · split at h
    · obtain rfl := Except.ok.inj h
      exact (Reader.State.ordered_start.run hst).expr
    · cases h
  · cases h

end Pattern

end LogSift
