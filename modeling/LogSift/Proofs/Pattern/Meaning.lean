import LogSift.Pattern.Meaning
import LogSift.Proofs.Pattern.Branches
/-!
# What is meant is what is written

`Expr.Matches` says what a pattern matches as it is written, under the flags
in force. The node that it means matches the same (`Expr.matches_meaning`):
a repetition of what matches only the empty text needs one round at most,
and that branches are brought together changes nothing.
-/


namespace LogSift

namespace Pattern

variable {c d : Cursor} {n least : Nat} {most : Option Nat} {greedy : Bool}
  {step : Cursor → Cursor → Prop} {node : Node} {nodes : List Node} {m m' : Mode} {e : Expr}

/-- Two steps succeed if both do. -/
theorem bind_eq_ok_iff {ε α β : Type} {x : Except ε α} {f : α → Except ε β} {b : β} :
    (x >>= f) = .ok b ↔ ∃ a, x = .ok a ∧ f a = .ok b := by
  cases x with
  | error e =>
    constructor
    · intro h
      cases h
    · rintro ⟨a, h, -⟩
      cases h
  | ok a =>
    constructor
    · exact fun h => ⟨a, rfl, h⟩
    · rintro ⟨a', ha, h⟩
      obtain rfl := Except.ok.inj ha
      exact h

/-! ## Patterns as they are written -/

/-- A number of rounds that a repetition may take. -/
def Between (least : Nat) (most : Option Nat) (n : Nat) : Prop :=
  least ≤ n ∧ ∀ m, most = some m → n ≤ m

/-- The bounds of a repetition are in order. -/
def InBounds (least : Nat) (most : Option Nat) : Prop := ∀ m, most = some m → least ≤ m

/-- What matches only the empty text needs no more than one round. -/
theorem inBounds_closer (h : InBounds least most) :
    InBounds (min least 1) (some ((most.map (min · 1)).getD 1)) := by
  intro m hm
  obtain rfl := Option.some.inj hm
  cases most with
  | none => exact Nat.min_le_right _ _
  | some k =>
    have := h k rfl
    simp only [Option.map_some, Option.getD_some]
    omega

namespace Expr

/-- The flags in force behind an expression. -/
def after : Expr → Mode → Mode
  | flags change, m => m.apply change
  | repeated e _ _ _, m => e.after m
  | seq a b, m => b.after (a.after m)
  | alt a b, m => b.after (a.after m)
  | _, m => m

/-- **A pattern matches between two places**, as it is written. -/
def Matches : Expr → Mode → Cursor → Cursor → Prop
  | empty, _, c, d => c = d
  | flags _, _, c, d => c = d
  | atom a, m, c, d => ∃ node, m.atom a = .ok node ∧ node.Matches c d
  | bracket negated set, m, c, d =>
    ∃ s, (m.classSet set >>= m.finish negated) = .ok s ∧ (Node.set s).Matches c d
  | repeated e least most _, m, c, d => ∃ n, Between least most n ∧ Rounds (e.Matches m) n c d
  | capture _ _ e, m, c, d => e.Matches m c d
  | group change e, m, c, d => e.Matches (m.apply change) c d
  | seq a b, m, c, d => ∃ f, a.Matches m c f ∧ b.Matches (a.after m) f d
  | alt a b, m, c, d => a.Matches m c d ∨ b.Matches (a.after m) c d

/-- The bounds of all repetitions are in order. -/
def Ordered : Expr → Prop
  | repeated e least most _ => InBounds least most ∧ e.Ordered
  | capture _ _ e => e.Ordered
  | group _ e => e.Ordered
  | seq a b => a.Ordered ∧ b.Ordered
  | alt a b => a.Ordered ∧ b.Ordered
  | _ => True

end Expr

/-! ## Nodes in order -/

namespace Node

/-- The bounds of all repetitions are in order. -/
def Ordered : Node → Prop
  | repeated e least most _ => InBounds least most ∧ e.Ordered
  | capture _ _ e => e.Ordered
  | seq a b => a.Ordered ∧ b.Ordered
  | alt a b => a.Ordered ∧ b.Ordered
  | _ => True

theorem Ordered.join {first second : Node} (hfirst : first.Ordered) (hsecond : second.Ordered) :
    (first.join second).Ordered := by
  rw [Node.join]
  split
  · exact hsecond
  · split
    · exact hfirst
    · exact ⟨hfirst, hsecond⟩

theorem Ordered.branches (h : node.Ordered) : ∀ b ∈ node.branches, b.Ordered := by
  induction node with
  | alt p q ihp ihq =>
    intro b hb
    rcases List.mem_append.mp hb with hb | hb
    · exact ihp h.1 b hb
    · exact ihq h.2 b hb
  | _ => exact List.forall_mem_singleton.mpr h

theorem Ordered.parts (h : node.Ordered) : ∀ p ∈ node.parts, p.Ordered := by
  induction node with
  | empty => exact List.forall_mem_nil _
  | seq p q ihp ihq =>
    intro r hr
    rcases List.mem_append.mp hr with hr | hr
    · exact ihp h.1 r hr
    · exact ihq h.2 r hr
  | _ => exact List.forall_mem_singleton.mpr h

theorem ordered_ofBranches (h : ∀ b ∈ nodes, b.Ordered) : (ofBranches nodes).Ordered := by
  fun_induction ofBranches nodes with
  | case1 => trivial
  | case2 n => exact h n List.mem_cons_self
  | case3 n rest _ ih =>
    exact ⟨h n List.mem_cons_self, ih fun b hb => h b (List.mem_cons_of_mem n hb)⟩

theorem ordered_ofParts (h : ∀ p ∈ nodes, p.Ordered) : (ofParts nodes).Ordered := by
  induction nodes with
  | nil => trivial
  | cons p nodes ih =>
    obtain ⟨hp, hnodes⟩ := List.forall_mem_cons.mp h
    exact Ordered.join hp (ih hnodes)

theorem Ordered.units (h : node.Ordered) : ∀ p ∈ node.units, p.Ordered := by
  intro p hp
  obtain ⟨ps, hps, rfl⟩ := List.mem_map.mp hp
  refine ordered_ofParts fun q hq => h.parts q ?_
  rw [← List.flatten_splitBy (fun a b => a.single?.isSome && b.single?.isSome) node.parts]
  exact List.mem_flatten.mpr ⟨ps, hps, hq⟩

/-- **To bring branches together keeps the bounds in order.** -/
theorem Ordered.closedWith (fuel : Nat) (h : node.Ordered) : (node.closedWith fuel).Ordered := by
  induction fuel generalizing node with
  | zero => exact h
  | succ fuel ih =>
    rw [Node.closedWith]
    split
    · exact h
    · split
      · trivial
      · simp only
        split
        · exact ordered_ofBranches h.branches
        · have hunits : ∀ ps ∈ node.branches.map Node.units, ∀ p ∈ ps, p.Ordered := by
            intro ps hps
            obtain ⟨b, hb, rfl⟩ := List.mem_map.mp hps
            exact (h.branches b hb).units
          obtain ⟨ps, hps⟩ := List.exists_mem_of_ne_nil _
            (mt List.map_eq_nil_iff.mp node.branches_ne_nil : node.branches.map Node.units ≠ [])
          have hfront := (isPrefix_foldl_commonFront ((node.branches.map Node.units).headD [])
            (node.branches.map Node.units)).2 ps hps
          refine ordered_ofParts fun p hp => ?_
          rcases List.mem_append.mp hp with hp | hp
          · exact hunits ps hps p (hfront.mem hp)
          · obtain rfl := List.mem_singleton.mp hp
            refine ih (ordered_ofBranches fun b hb => ?_)
            obtain ⟨qs, hqs, rfl⟩ := List.mem_map.mp hb
            exact ordered_ofParts fun q hq => hunits qs hqs q (List.mem_of_mem_drop hq)

theorem Ordered.closed (h : node.Ordered) : node.closed.Ordered := h.closedWith node.size

end Node

/-! ## Repetitions -/

/-- Rounds that lead nowhere come to one. -/
theorem rounds_succ_iff (hstep : ∀ c d, step c d → c = d) :
    Rounds step (n + 1) c d ↔ step c d := by
  induction n with
  | zero => exact rounds_one
  | succ n ih =>
    rw [Rounds]
    constructor
    · rintro ⟨f, hcf, hfd⟩
      obtain rfl := hstep c f hcf
      exact ih.mp hfd
    · intro hcd
      obtain rfl := hstep c d hcd
      exact ⟨c, hcd, ih.mpr hcd⟩

/-- Within bounds, they come to one, or to none. -/
theorem exists_rounds_of_eq (hstep : ∀ c d, step c d → c = d) (h : InBounds least most) :
    (∃ n, Between least most n ∧ Rounds step n c d) ↔ if least = 0 then c = d else step c d := by
  by_cases hzero : least = 0
  · rw [if_pos hzero]
    constructor
    · rintro ⟨_ | n, -, hrounds⟩
      · exact hrounds
      · exact hstep c d ((rounds_succ_iff hstep).mp hrounds)
    · exact fun hcd => ⟨0, ⟨by omega, fun m _ => Nat.zero_le m⟩, hcd⟩
  · rw [if_neg hzero]
    obtain ⟨k, rfl⟩ := Nat.exists_eq_succ_of_ne_zero hzero
    constructor
    · rintro ⟨_ | n, ⟨hle, -⟩, hrounds⟩
      · omega
      · exact (rounds_succ_iff hstep).mp hrounds
    · exact fun hcd => ⟨k + 1, ⟨Nat.le_refl _, h⟩, (rounds_succ_iff hstep).mpr hcd⟩

namespace Node

/-- A repetition takes a number of rounds within its bounds. -/
theorem matches_repeated_iff (h : InBounds least most) :
    (repeated node least most greedy).Matches c d ↔
      ∃ n, Between least most n ∧ Rounds node.Matches n c d := by
  rw [Matches]
  constructor
  · rintro ⟨n, hn, hrounds⟩
    refine ⟨least + n, ⟨Nat.le_add_right _ _, fun m hm => ?_⟩, hrounds⟩
    have := h m hm
    have := hn m hm
    omega
  · rintro ⟨n, ⟨hle, hn⟩, hrounds⟩
    refine ⟨n - least, fun m hm => ?_, ?_⟩
    · have := hn m hm
      omega
    · rwa [Nat.add_sub_cancel' hle]

/-- What matches only the empty text leads nowhere. -/
theorem eq_of_onlyEmpty (hordered : node.Ordered) (honly : node.onlyEmpty = true)
    (h : node.Matches c d) : c = d := by
  induction node generalizing c d with
  | empty => exact h
  | set s => cases honly
  | look l => exact h.2
  | capture index name e ih => exact ih hordered honly h
  | seq p q ihp ihq =>
    rw [onlyEmpty, Bool.and_eq_true] at honly
    obtain ⟨f, hp, hq⟩ := h
    exact (ihp hordered.1 honly.1 hp).trans (ihq hordered.2 honly.2 hq)
  | alt p q ihp ihq =>
    rw [onlyEmpty, Bool.and_eq_true] at honly
    rcases h with hp | hq
    · exact ihp hordered.1 honly.1 hp
    · exact ihq hordered.2 honly.2 hq
  | repeated e least most greedy ih =>
    obtain ⟨n, ⟨-, hn⟩, hrounds⟩ := (matches_repeated_iff hordered.1).mp h
    rw [onlyEmpty, Bool.or_eq_true, decide_eq_true_eq] at honly
    cases n with
    | zero => exact hrounds
    | succ n =>
      rcases honly with honly | rfl
      · have hstep : ∀ c d, e.Matches c d → c = d := fun c d => ih hordered.2 honly
        exact hstep c d ((rounds_succ_iff hstep).mp hrounds)
      · exact absurd (hn 0 rfl) (by omega)

/-- A repetition within its bounds, written out where it comes to less. -/
theorem matches_bounded (h : InBounds least most) :
    (if most = some 0 then empty
      else if least = 1 && most = some 1 then node
      else repeated node least most greedy).Matches c d ↔
      ∃ n, Between least most n ∧ Rounds node.Matches n c d := by
  split
  · rename_i hmost
    subst hmost
    constructor
    · exact fun hcd => ⟨0, ⟨h 0 rfl, fun m _ => Nat.zero_le m⟩, hcd⟩
    · rintro ⟨n, ⟨-, hn⟩, hrounds⟩
      obtain rfl : n = 0 := Nat.le_zero.mp (hn 0 rfl)
      exact hrounds
  · split
    · rename_i hone
      obtain ⟨rfl, rfl⟩ : least = 1 ∧ most = some 1 := by simpa using hone
      constructor
      · exact fun hcd => ⟨1, ⟨Nat.le_refl 1, h⟩, rounds_one.mpr hcd⟩
      · rintro ⟨n, ⟨hle, hn⟩, hrounds⟩
        obtain rfl : n = 1 := Nat.le_antisymm (hn 1 rfl) hle
        exact rounds_one.mp hrounds
    · exact matches_repeated_iff h

/-- **A repetition matches rounds within its bounds**, even where it is built
with closer ones. -/
theorem matches_repetition (hordered : node.Ordered) (h : InBounds least most) :
    (node.repetition least most greedy).Matches c d ↔
      ∃ n, Between least most n ∧ Rounds node.Matches n c d := by
  rw [repetition]
  by_cases honly : node.onlyEmpty
  · have hstep : ∀ c d, node.Matches c d → c = d := fun c d => eq_of_onlyEmpty hordered honly
    have hcloser := inBounds_closer h
    simp only [if_pos honly]
    rw [matches_bounded hcloser, exists_rounds_of_eq hstep hcloser, exists_rounds_of_eq hstep h]
    simp
  · simp only [if_neg honly]
    exact matches_bounded h

theorem Ordered.repetition (hordered : node.Ordered) (h : InBounds least most) :
    (node.repetition least most greedy).Ordered := by
  have hbounded : ∀ least most, InBounds least most → (if most = some 0 then empty
      else if least = 1 && most = some 1 then node
      else repeated node least most greedy).Ordered := by
    intro least most h
    split
    · trivial
    · split
      · exact hordered
      · exact ⟨h, hordered⟩
  rw [Node.repetition]
  refine hbounded _ _ ?_
  split
  · exact inBounds_closer h
  · exact h

end Node

/-! ## Meaning -/

/-- One unit is no repetition. -/
theorem Mode.ordered_atom {a : Atom} (h : m.atom a = .ok node) : node.Ordered := by
  cases a with
  | assertion a =>
    obtain rfl := Except.ok.inj h
    trivial
  | _ =>
    obtain ⟨s, -, hs⟩ := bind_eq_ok_iff.mp h
    obtain rfl := Except.ok.inj hs
    trivial

/-- **What a pattern means matches as it is written.** -/
theorem Expr.matches_meaning (hordered : e.Ordered) (h : e.meaning m = .ok (node, m')) :
    m' = e.after m ∧ node.Ordered ∧ ∀ c d, node.Matches c d ↔ e.Matches m c d := by
  induction e generalizing m node m' with
  | empty | flags change =>
    obtain ⟨rfl, rfl⟩ := Prod.mk.inj (Except.ok.inj h)
    exact ⟨rfl, trivial, fun c d => Iff.rfl⟩
  | atom a =>
    obtain ⟨unit, ha, hunit⟩ := bind_eq_ok_iff.mp h
    obtain ⟨rfl, rfl⟩ := Prod.mk.inj (Except.ok.inj hunit)
    refine ⟨rfl, Mode.ordered_atom ha, fun c d => ?_⟩
    simp [Matches, ha]
  | bracket negated set =>
    obtain ⟨s, hs, h⟩ := bind_eq_ok_iff.mp h
    obtain ⟨t, ht, h⟩ := bind_eq_ok_iff.mp h
    obtain ⟨rfl, rfl⟩ := Prod.mk.inj (Except.ok.inj h)
    have hboth : (m.classSet set >>= m.finish negated) = .ok t := bind_eq_ok_iff.mpr ⟨s, hs, ht⟩
    refine ⟨rfl, trivial, fun c d => ?_⟩
    simp [Matches, hboth]
  | repeated e least most greedy ih =>
    obtain ⟨⟨inner, m''⟩, he, hinner⟩ := bind_eq_ok_iff.mp h
    obtain ⟨rfl, rfl⟩ := Prod.mk.inj (Except.ok.inj hinner)
    obtain ⟨rfl, hinner, hmatches⟩ := ih hordered.2 he
    refine ⟨rfl, hinner.repetition hordered.1, fun c d => ?_⟩
    rw [Node.matches_repetition hinner hordered.1, Matches]
    exact exists_congr fun n => and_congr_right fun _ => rounds_congr hmatches
  | capture index name e ih =>
    obtain ⟨⟨inner, m''⟩, he, hinner⟩ := bind_eq_ok_iff.mp h
    obtain ⟨rfl, rfl⟩ := Prod.mk.inj (Except.ok.inj hinner)
    obtain ⟨-, hinner, hmatches⟩ := ih hordered he
    exact ⟨rfl, hinner.closed, fun c d => (Node.matches_closed inner).trans (hmatches c d)⟩
  | group change e ih =>
    obtain ⟨⟨inner, m''⟩, he, hinner⟩ := bind_eq_ok_iff.mp h
    obtain ⟨rfl, rfl⟩ := Prod.mk.inj (Except.ok.inj hinner)
    obtain ⟨-, hinner, hmatches⟩ := ih hordered he
    exact ⟨rfl, hinner.closed, fun c d => (Node.matches_closed inner).trans (hmatches c d)⟩
  | seq a b iha ihb =>
    obtain ⟨⟨x, mid⟩, ha, h⟩ := bind_eq_ok_iff.mp h
    obtain ⟨⟨y, last⟩, hb, h⟩ := bind_eq_ok_iff.mp h
    obtain ⟨rfl, rfl⟩ := Prod.mk.inj (Except.ok.inj h)
    obtain ⟨rfl, hx, hmatchesA⟩ := iha hordered.1 ha
    obtain ⟨rfl, hy, hmatchesB⟩ := ihb hordered.2 hb
    refine ⟨rfl, hx.join hy, fun c d => ?_⟩
    simp only [Node.matches_join, hmatchesA, hmatchesB, Matches]
  | alt a b iha ihb =>
    obtain ⟨⟨x, mid⟩, ha, h⟩ := bind_eq_ok_iff.mp h
    obtain ⟨⟨y, last⟩, hb, h⟩ := bind_eq_ok_iff.mp h
    obtain ⟨rfl, rfl⟩ := Prod.mk.inj (Except.ok.inj h)
    obtain ⟨rfl, hx, hmatchesA⟩ := iha hordered.1 ha
    obtain ⟨rfl, hy, hmatchesB⟩ := ihb hordered.2 hb
    refine ⟨rfl, ⟨hx, hy⟩, fun c d => ?_⟩
    simp only [Node.Matches, hmatchesA, hmatchesB, Matches]

end Pattern

end LogSift
