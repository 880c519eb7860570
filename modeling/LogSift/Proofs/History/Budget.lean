import LogSift.Proofs.History
/-!
# The account of a history

A history counts the lines that its snapshots hold together, and the count
is kept up in four places: a push adds to it, each eviction and each pop
take off it, and clearing sets it to nothing. It is right all the time
(`Balanced`), so that what is taken off is always there: a history that
checks this first comes to the same (`applyChecked`). As the count is
right, eviction stops where it should: what a push leaves is the longest
end of all snapshots that the budget has room for, or the new one alone
(`Balanced.push_longest`). The numbers of snapshots are given out in
order and never again (`account_kept`).
-/


namespace LogSift

namespace History

variable {budget : Nat} {snapshots older : List Snapshot} {h : History} {ops : List Op}

/-! ## Operations -/

/-- What can be done to a history. -/
inductive Op
  | push (time : Moment) (label : String) (w : Workspace)
  | pop
  | clear

/-- The history after an operation. -/
def apply (h : History) : Op → History
  | .push time label w => h.push time label w
  | .pop => (h.pop?.map (·.2)).getD h
  | .clear => h.clear

/-- The history after some operations. -/
def after (h : History) (ops : List Op) : History := ops.foldl apply h

/-- The numbers given to the snapshots that operations push, in order. -/
def issued (h : History) : List Op → List Nat
  | [] => []
  | .push time label w :: rest =>
    ((h.push time label w).newest?.map (·.id)).toList ++ (h.push time label w).issued rest
  | .pop :: rest => (h.apply .pop).issued rest
  | .clear :: rest => (h.apply .clear).issued rest

/-- Is it a push? -/
def Op.isPush : Op → Bool
  | push _ _ _ => true
  | _ => false

@[simp] theorem after_nil (h : History) : h.after [] = h := rfl

@[simp] theorem after_cons (h : History) (op : Op) (rest : List Op) :
    h.after (op :: rest) = (h.apply op).after rest := rfl

/-! ## Checked subtraction -/

/-- The difference of two numbers, if the second can be taken off the first. -/
def minus? (a b : Nat) : Option Nat := if b ≤ a then some (a - b) else none

/-- Eviction that fails where it would take off more than there is. -/
def evictChecked (budget : Nat) : Nat → List Snapshot → Option (Nat × List Snapshot)
  | total, s :: t :: rest =>
    if budget < total then
      (minus? total s.size).bind fun total => evictChecked budget total (t :: rest)
    else some (total, s :: t :: rest)
  | total, few => some (total, few)

/-- The history after an operation that fails where it would take off more
than there is. -/
def applyChecked (h : History) : Op → Option History
  | .push time label w =>
    (evictChecked h.budget (h.total + w.log.length)
      (h.snapshots ++ [⟨h.nextId, time, label, w⟩])).map fun (total, snapshots) =>
        { h with snapshots, total, nextId := h.nextId + 1 }
  | .pop =>
    match h.newest? with
    | none => some h
    | some s =>
      (minus? h.total s.size).map fun total =>
        { h with snapshots := h.snapshots.dropLast, total }
  | .clear => some h.clear

/-! ## The lines held -/

/-- The number of lines that snapshots hold together. -/
def held : List Snapshot → Nat
  | [] => 0
  | s :: rest => s.workspace.log.length + held rest

@[simp] theorem held_nil : held [] = 0 := rfl

@[simp] theorem held_cons (s : Snapshot) (snapshots : List Snapshot) :
    held (s :: snapshots) = s.size + held snapshots := rfl

@[simp] theorem held_append (snapshots more : List Snapshot) :
    held (snapshots ++ more) = held snapshots + held more := by
  induction snapshots with
  | nil => rw [List.nil_append, held_nil, Nat.zero_add]
  | cons s snapshots ih => rw [List.cons_append, held_cons, held_cons, ih, Nat.add_assoc]

/-- Without the oldest one the others hold what is left. -/
theorem held_cons_sub (s : Snapshot) (snapshots : List Snapshot) :
    held (s :: snapshots) - s.size = held snapshots := by
  rw [held_cons]
  omega

/-! ## Eviction -/

/-- **The count stays right** while snapshots are given up, -/
theorem evict_fst (budget : Nat) (snapshots : List Snapshot) :
    (evict budget (held snapshots) snapshots).1 =
      held (evict budget (held snapshots) snapshots).2 := by
  induction snapshots with
  | nil => rfl
  | cons s rest ih =>
    cases rest with
    | nil => rfl
    | cons t rest =>
      rw [evict]
      split
      · rw [held_cons_sub]
        exact ih
      · rfl

/-- so that checking it changes nothing. -/
theorem evictChecked_eq (budget : Nat) (snapshots : List Snapshot) :
    evictChecked budget (held snapshots) snapshots =
      some (evict budget (held snapshots) snapshots) := by
  induction snapshots with
  | nil => rfl
  | cons s rest ih =>
    cases rest with
    | nil => rfl
    | cons t rest =>
      have hle : s.size ≤ held (s :: t :: rest) := by
        rw [held_cons]
        omega
      rw [evictChecked, evict]
      split
      · rw [minus?, if_pos hle, Option.bind_some, held_cons_sub]
        exact ih
      · rfl

/-- **Eviction ends within the budget** or at a last snapshot. -/
theorem evict_within (budget : Nat) (snapshots : List Snapshot) :
    held (evict budget (held snapshots) snapshots).2 ≤ budget ∨
      (evict budget (held snapshots) snapshots).2.length ≤ 1 := by
  induction snapshots with
  | nil => exact Or.inr (Nat.zero_le 1)
  | cons s rest ih =>
    cases rest with
    | nil => exact Or.inr (Nat.le_refl 1)
    | cons t rest =>
      rw [evict]
      split
      · rw [held_cons_sub]
        exact ih
      · rename_i hroom
        exact Or.inl (Nat.le_of_not_lt hroom)

/-- **And it gives up no more than it has to**: every end of the snapshots
that the budget has room for is left. -/
theorem suffix_evict (h : older <:+ snapshots) (hroom : held older ≤ budget) :
    older <:+ (evict budget (held snapshots) snapshots).2 := by
  induction snapshots with
  | nil => exact h
  | cons s rest ih =>
    cases rest with
    | nil => exact h
    | cons t rest =>
      rw [evict]
      split
      · -- all together are too many, so what there is room for is an end of the others
        rename_i hover
        rw [held_cons_sub]
        rcases List.suffix_cons_iff.mp h with rfl | hrest
        · omega
        · exact ih hrest
      · exact h

/-! ## The invariant -/

/-- **The account of the history is right**, and its snapshots are numbered
in order. -/
structure Balanced (budget : Nat) (h : History) : Prop where
  budget_eq : h.budget = budget
  total_eq : h.total = held h.snapshots
  within : h.total ≤ budget ∨ h.snapshots.length ≤ 1
  ordered : (h.snapshots.map (·.id)).Pairwise (· < ·)
  fresh : ∀ s ∈ h.snapshots, s.id < h.nextId

namespace Balanced

theorem empty (budget : Nat) : Balanced budget (.empty budget) where
  budget_eq := rfl
  total_eq := rfl
  within := Or.inl (Nat.zero_le budget)
  ordered := .nil
  fresh := List.forall_mem_nil _

variable (hb : Balanced budget h) (time : Moment) (label : String) (w : Workspace)
include hb

/-- The count that a push starts from is that of all snapshots. -/
theorem total_add :
    h.total + w.log.length = held (h.snapshots ++ [⟨h.nextId, time, label, w⟩]) := by
  rw [held_append, held_cons, held_nil, hb.total_eq]
  rfl

theorem push_eq :
    let all := h.snapshots ++ [⟨h.nextId, time, label, w⟩]
    let left := evict budget (held all) all
    h.push time label w =
      { h with snapshots := left.2, total := left.1, nextId := h.nextId + 1 } := by
  intro all left
  have hleft : left = evict h.budget (h.total + w.log.length) all := by
    rw [hb.total_add time label w, hb.budget_eq]
  rw [hleft]
  rfl

theorem push : Balanced budget (h.push time label w) := by
  have hids : ((h.push time label w).snapshots.map (·.id)).Pairwise (· < ·) ∧
      ∀ s ∈ (h.push time label w).snapshots, s.id < h.nextId + 1 := by
    -- the new number is greater than those of all snapshots kept
    obtain ⟨kept, hkept, hpush⟩ := h.push_snapshots time label w
    have hfresh : ∀ s ∈ kept, s.id < h.nextId := fun s hs => hb.fresh s (hkept.subset hs)
    rw [hpush]
    refine ⟨?_, fun s hs => ?_⟩
    · rw [List.map_append, List.map_singleton, List.pairwise_append]
      refine ⟨hb.ordered.sublist (hkept.sublist.map _), List.pairwise_singleton _ _, ?_⟩
      simpa using hfresh
    · rcases List.mem_append.mp hs with hs | hs
      · have := hfresh s hs
        omega
      · obtain rfl := List.mem_singleton.mp hs
        exact Nat.lt_succ_self _
  refine ⟨?_, ?_, ?_, hids.1, hids.2⟩
  · rw [hb.push_eq]
    exact hb.budget_eq
  · rw [hb.push_eq]
    exact evict_fst budget _
  · rw [hb.push_eq]
    simp only [evict_fst]
    exact evict_within budget _

/-- **A push leaves the longest end that the budget has room for**, and the
new snapshot alone if there is no room even for that. -/
theorem push_longest :
    let s : Snapshot := ⟨h.nextId, time, label, w⟩
    let kept := (h.push time label w).snapshots
    (s.size ≤ budget →
      kept <:+ h.snapshots ++ [s] ∧ held kept ≤ budget ∧
        ∀ t, t <:+ h.snapshots ++ [s] → held t ≤ budget → t <:+ kept) ∧
      (budget < s.size → kept = [s]) := by
  intro s kept
  have hkept : kept = (evict budget (held (h.snapshots ++ [s])) (h.snapshots ++ [s])).2 := by
    simp only [kept, hb.push_eq, s]
  obtain ⟨older, holder, hlast⟩ := h.push_snapshots time label w
  have hlast : kept = older ++ [s] := hlast
  have hsize : held kept = held older + s.size := by
    rw [hlast, held_append, held_cons, held_nil, Nat.add_zero]
  have hwithin : held kept ≤ budget ∨ kept.length ≤ 1 := by
    rw [hkept]
    exact evict_within budget _
  have hsingle : kept.length ≤ 1 → older = [] := by
    rw [hlast, List.length_append, List.length_singleton]
    intro hlength
    exact List.length_eq_zero_iff.mp (by omega)
  refine ⟨fun hroom => ⟨?_, ?_, fun t ht hroom => ?_⟩, fun hover => ?_⟩
  · rw [hlast]
    exact (List.suffix_append_inj_of_length_eq rfl).mpr ⟨holder, rfl⟩
  · rcases hwithin with hwithin | hlength
    · exact hwithin
    · rw [hsize, hsingle hlength, held_nil]
      omega
  · rw [hkept]
    exact suffix_evict ht hroom
  · rcases hwithin with hwithin | hlength
    · omega
    · rw [hlast, hsingle hlength, List.nil_append]

/-- The newest snapshot holds no more than all. -/
theorem size_newest_le {s : Snapshot} (hs : h.newest? = some s) :
    h.snapshots = h.snapshots.dropLast ++ [s] ∧ s.size ≤ h.total := by
  have hsplit : h.snapshots = h.snapshots.dropLast ++ [s] := by
    obtain ⟨older, holder⟩ := List.getLast?_eq_some_iff.mp hs
    rw [holder, List.dropLast_concat]
  refine ⟨hsplit, ?_⟩
  rw [hb.total_eq, hsplit, held_append, held_cons]
  omega

theorem pop : Balanced budget (h.apply .pop) := by
  rcases hs : h.newest? with _ | s
  · simp only [apply, pop?, hs, Option.map_none, Option.getD_none]
    exact hb
  · obtain ⟨hsplit, hle⟩ := hb.size_newest_le hs
    have hsub : h.snapshots.dropLast.Sublist h.snapshots := List.dropLast_sublist _
    have htotal : h.total = held h.snapshots.dropLast + s.size := by
      rw [hb.total_eq]
      conv => lhs; rw [hsplit]
      simp
    simp only [apply, pop?, hs, Option.map_some, Option.getD_some]
    refine ⟨hb.budget_eq, ?_, ?_, hb.ordered.sublist (hsub.map _),
      fun t ht => hb.fresh t (hsub.subset ht)⟩
    · simp only [htotal]
      omega
    · rcases hb.within with hwithin | hlength
      · exact Or.inl (by simp only; omega)
      · exact Or.inr (Nat.le_trans hsub.length_le hlength)

theorem clear : Balanced budget h.clear where
  budget_eq := hb.budget_eq
  total_eq := rfl
  within := Or.inl (Nat.zero_le budget)
  ordered := .nil
  fresh := List.forall_mem_nil _

/-- **Every operation keeps the account.** -/
theorem apply (op : Op) : Balanced budget (h.apply op) := by
  cases op with
  | push time label w => exact hb.push time label w
  | pop => exact hb.pop
  | clear => exact hb.clear

/-- **And none takes off more than there is.** -/
theorem applyChecked_eq (op : Op) : h.applyChecked op = some (h.apply op) := by
  cases op with
  | push time label w =>
    rw [applyChecked, hb.total_add time label, hb.budget_eq, evictChecked_eq, Option.map_some,
      History.apply, hb.push_eq, hb.budget_eq]
  | pop =>
    rcases hs : h.newest? with _ | s
    · simp [applyChecked, History.apply, pop?, hs]
    · obtain ⟨-, hle⟩ := hb.size_newest_le hs
      simp [applyChecked, History.apply, pop?, hs, minus?, hle]
  | clear => rfl

/-- So it is kept by any operations. -/
theorem after (ops : List Op) : Balanced budget (h.after ops) := by
  induction ops generalizing h with
  | nil => exact hb
  | cons op ops ih => exact ih (hb.apply op)

end Balanced

/-! ## Numbers -/

/-- A push gives its snapshot the next number. -/
theorem newest?_push (h : History) (time : Moment) (label : String) (w : Workspace) :
    (h.push time label w).newest? = some ⟨h.nextId, time, label, w⟩ := by
  obtain ⟨kept, -, hpush⟩ := h.push_snapshots time label w
  rw [newest?, hpush, List.getLast?_concat]

@[simp] theorem apply_pop_nextId (h : History) : (h.apply .pop).nextId = h.nextId := by
  rw [apply, pop?]
  cases h.newest? <;> rfl

theorem apply_pop_snapshots (h : History) : (h.apply .pop).snapshots ⊆ h.snapshots := by
  rw [apply, pop?]
  cases h.newest? with
  | none => exact List.Subset.refl _
  | some s => exact List.dropLast_subset _

/-- **Numbers are given out in order**, whatever is popped, given up or
cleared in between. -/
theorem issued_eq (h : History) (ops : List Op) :
    h.issued ops = List.range' h.nextId (ops.countP Op.isPush) := by
  induction ops generalizing h with
  | nil => rfl
  | cons op rest ih =>
    cases op with
    | push time label w =>
      rw [issued, newest?_push, ih, push_nextId, List.countP_cons_of_pos rfl, List.range'_succ]
      rfl
    | pop =>
      rw [issued, ih, apply_pop_nextId, List.countP_cons_of_neg (by simp [Op.isPush])]
    | clear =>
      rw [issued, ih, List.countP_cons_of_neg (by simp [Op.isPush])]
      rfl

/-- Every snapshot was there before or has a number given out since. -/
theorem mem_issued {s : Snapshot} (hs : s ∈ (h.after ops).snapshots) :
    s ∈ h.snapshots ∨ s.id ∈ h.issued ops := by
  induction ops generalizing h with
  | nil => exact Or.inl hs
  | cons op rest ih =>
    rcases ih hs with hs | hs
    · cases op with
      | push time label w =>
        obtain ⟨kept, hkept, hpush⟩ := h.push_snapshots time label w
        rw [apply, hpush, List.mem_append, List.mem_singleton] at hs
        rcases hs with hs | rfl
        · exact Or.inl (hkept.subset hs)
        · exact Or.inr (by simp [issued, newest?_push])
      | pop => exact Or.inl (h.apply_pop_snapshots hs)
      | clear => cases hs
    · refine Or.inr ?_
      cases op with
      | push => exact List.mem_append_right _ hs
      | pop | clear => exact hs

/-- **The account of a history is kept.** After any pushes, pops and clears
the count of lines is that of the snapshots, and no operation takes off it
what is not there. The lines are within the budget, or one snapshot is
left. A push leaves the longest end of the snapshots, the new one behind
the old ones, that the budget has room for; if there is no room even for
the new one, that alone. The numbers of snapshots grow from the oldest to
the newest, and each push has given out a new one, from one on. -/
theorem account_kept (budget : Nat) (ops : List Op) :
    let h := (empty budget).after ops
    (h.total = held h.snapshots ∧
        ∀ op, h.applyChecked op = some (h.apply op)) ∧
      (h.total ≤ budget ∨ h.snapshots.length ≤ 1) ∧
      (∀ time label w,
        let s : Snapshot := ⟨h.nextId, time, label, w⟩
        let kept := (h.push time label w).snapshots
        (s.size ≤ budget →
          kept <:+ h.snapshots ++ [s] ∧ held kept ≤ budget ∧
            ∀ t, t <:+ h.snapshots ++ [s] → held t ≤ budget → t <:+ kept) ∧
          (budget < s.size → kept = [s])) ∧
      (h.snapshots.map (·.id)).Pairwise (· < ·) ∧
      (empty budget).issued ops = List.range' 1 (ops.countP Op.isPush) ∧
      ∀ s ∈ h.snapshots, s.id ∈ (empty budget).issued ops := by
  intro h
  have hb : Balanced budget h := (Balanced.empty budget).after ops
  have hissued : ∀ s ∈ h.snapshots, s.id ∈ (empty budget).issued ops := fun s hs =>
    (mem_issued hs).resolve_left List.not_mem_nil
  exact ⟨⟨hb.total_eq, hb.applyChecked_eq⟩, hb.within, hb.push_longest, hb.ordered,
    issued_eq _ ops, hissued⟩

/-- There is room for three lines. The third push gives the first snapshot
up but not the second, which holds nothing; one that is too large for the
budget stands alone, and is counted until it is popped. No number comes
again. -/
theorem account_kept_of_eviction :
    let w (n : Nat) : Workspace := ⟨Log.ofTexts (List.replicate n "x"), Settings.initial⟩
    let push (n : Nat) : Op := .push ⟨0, 0⟩ "x" (w n)
    let three := (empty 3).after [push 2, push 0, push 2]
    let large := (empty 3).after [push 2, push 0, push 2, .pop, push 5]
    three.snapshots.map (·.id) = [2, 3] ∧ held three.snapshots ≤ 3 ∧
      three.applyChecked (push 5) = some (three.apply (push 5)) ∧
      large.snapshots = [⟨4, ⟨0, 0⟩, "x", w 5⟩] ∧ large.total = 5 ∧
      (empty 3).issued [push 2, push 0, push 2, .pop, push 5, .pop, .clear, push 1] =
        [1, 2, 3, 4, 5] := by
  intro w push three large
  obtain ⟨-, -, hlongest, -⟩ := account_kept 3 [push 2, push 0]
  obtain ⟨⟨-, hchecked⟩, -⟩ := account_kept 3 [push 2, push 0, push 2]
  obtain ⟨-, -, halone, -⟩ := account_kept 3 [push 2, push 0, push 2, .pop]
  obtain ⟨⟨htotal, -⟩, -⟩ := account_kept 3 [push 2, push 0, push 2, .pop, push 5]
  obtain ⟨-, -, -, -, hissued, -⟩ :=
    account_kept 3 [push 2, push 0, push 2, .pop, push 5, .pop, .clear, push 1]
  refine ⟨by decide, ?_, hchecked (push 5), ?_, htotal, hissued⟩
  · exact ((hlongest ⟨0, 0⟩ "x" (w 2)).1 (by decide)).2.1
  · exact (halone ⟨0, 0⟩ "x" (w 5)).2 (by decide)

end History

end LogSift
