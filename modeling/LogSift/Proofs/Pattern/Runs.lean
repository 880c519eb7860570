import LogSift.Proofs.Pattern.Matches
/-!
# Programs do what their nodes mean

From an address and a place, a program may reach its end (`Ends`). Code
that starts at one address and is left at another runs a relation between
places (`Runs`) if the end is reached through it just where the relation
leads to a place from which it is reached. That holds of one instruction,
is kept when code is put together, and so the code of a node runs what the
node matches (`Node.runs`).
-/


namespace LogSift

namespace Pattern

variable {code : Array Inst} {a b x y hub leave n m times size base : Nat} {c d : Cursor}
  {R S : Cursor → Cursor → Prop} {greedy : Bool} {i : Inst} {first second : List Inst}

/-! ## Reaching the end -/

/-- Where an instruction leads to. -/
def Inst.targets (i : Inst) (a : Nat) (c : Cursor) : List (Nat × Cursor) :=
  (i.ways ⟨a, c, []⟩).map fun t => (t.address, t.place)

/-- What a thread has noted does not matter for that. -/
theorem Inst.map_ways (i : Inst) (t : Thread) :
    (i.ways t).map (fun u => (u.address, u.place)) = i.targets t.address t.place := by
  cases i with
  | take s =>
    rcases hnext : t.place.next? with _ | ⟨ch, d⟩
    · simp [targets, ways, hnext]
    · simp only [targets, ways, hnext]
      split <;> rfl
  | look l =>
    simp only [targets, ways]
    split <;> rfl
  | save slot => rfl
  | jump target => rfl
  | fork first second => rfl

/-- **The end of the program can be reached** in so many steps. -/
def Ends (code : Array Inst) : Nat → Nat → Cursor → Prop
  | 0, a, _ => code[a]? = none
  | n + 1, a, c => ∃ i, code[a]? = some i ∧ ∃ p ∈ i.targets a c, Ends code n p.1 p.2

/-- Where there is an instruction, the end is reached through it. -/
theorem ends_iff (h : code[a]? = some i) :
    Ends code n a c ↔ ∃ m, n = m + 1 ∧ ∃ p ∈ i.targets a c, Ends code m p.1 p.2 := by
  cases n with
  | zero => simp [Ends, h]
  | succ n => simp [Ends, h]

/-- A choice leads either way, whichever is preferred. -/
theorem mem_targets_choice {p : Nat × Cursor} :
    p ∈ (Node.choice greedy x y).targets a c ↔ p = (x, c) ∨ p = (y, c) := by
  cases greedy <;> simp [Node.choice, Inst.targets, Inst.ways, or_comm]

theorem ends_choice (h : code[a]? = some (Node.choice greedy x y)) :
    Ends code n a c ↔ ∃ m, n = m + 1 ∧ (Ends code m x c ∨ Ends code m y c) := by
  simp only [ends_iff h, mem_targets_choice]
  constructor
  · rintro ⟨m, rfl, p, rfl | rfl, hm⟩
    · exact ⟨m, rfl, .inl hm⟩
    · exact ⟨m, rfl, .inr hm⟩
  · rintro ⟨m, rfl, hm | hm⟩
    · exact ⟨m, rfl, _, .inl rfl, hm⟩
    · exact ⟨m, rfl, _, .inr rfl, hm⟩

/-! ## Running a relation -/

/-- **Code runs a relation**: what is reached from its start is reached
through it, in no more steps, and the other way round. -/
structure Runs (code : Array Inst) (a b : Nat) (R : Cursor → Cursor → Prop) : Prop where
  sound : ∀ n c, Ends code n a c → ∃ d, R c d ∧ ∃ m ≤ n, Ends code m b d
  complete : ∀ c d, R c d → (∃ m, Ends code m b d) → ∃ n, Ends code n a c

namespace Runs

theorem congr (h : Runs code a b R) (hRS : ∀ c d, R c d ↔ S c d) : Runs code a b S := by
  obtain rfl : R = S := funext fun c => funext fun d => propext (hRS c d)
  exact h

theorem refl : Runs code a a (· = ·) :=
  ⟨fun n c h => ⟨c, rfl, n, Nat.le_refl n, h⟩, by rintro c _ rfl h; exact h⟩

/-- One after the other. -/
theorem comp (h : Runs code a b R) (h' : Runs code b leave S) :
    Runs code a leave fun c d => ∃ e, R c e ∧ S e d := by
  refine ⟨fun n c hn => ?_, ?_⟩
  · obtain ⟨e, hR, m, hmn, hm⟩ := h.sound n c hn
    obtain ⟨d, hS, l, hlm, hl⟩ := h'.sound m e hm
    exact ⟨d, ⟨e, hR, hS⟩, l, Nat.le_trans hlm hmn, hl⟩
  · rintro c d ⟨e, hR, hS⟩ hd
    exact h.complete c e hR (h'.complete e d hS hd)

/-- One instruction that leads to one address. -/
theorem single (h : code[a]? = some i) (hi : ∀ c p, p ∈ i.targets a c ↔ p.1 = b ∧ R c p.2) :
    Runs code a b R := by
  refine ⟨fun n c hn => ?_, ?_⟩
  · obtain ⟨m, rfl, p, hp, hm⟩ := (ends_iff h).mp hn
    obtain ⟨rfl, hR⟩ := (hi c p).mp hp
    exact ⟨p.2, hR, m, Nat.le_succ m, hm⟩
  · rintro c d hR ⟨m, hm⟩
    exact ⟨m + 1, (ends_iff h).mpr ⟨m, rfl, (b, d), (hi c (b, d)).mpr ⟨rfl, hR⟩, hm⟩⟩

theorem jump (h : code[a]? = some (.jump b)) : Runs code a b (· = ·) :=
  single h fun c p => by simp [Inst.targets, Inst.ways, Prod.ext_iff, @eq_comm _ c]

theorem save {slot : Nat} (h : code[a]? = some (.save slot)) : Runs code a (a + 1) (· = ·) :=
  single h fun c p => by simp [Inst.targets, Inst.ways, Prod.ext_iff, @eq_comm _ c]

theorem take {s : CharSet} (h : code[a]? = some (.take s)) :
    Runs code a (a + 1) (Node.set s).Matches := by
  refine single h fun c p => ?_
  rcases hnext : c.next? with _ | ⟨ch, d⟩
  · simp [Inst.targets, Inst.ways, hnext, Node.Matches]
  · by_cases hs : s.contains ch
    · simp [Inst.targets, Inst.ways, hnext, hs, Node.Matches, Prod.ext_iff, @eq_comm _ d, and_assoc]
    · simp [Inst.targets, Inst.ways, hnext, hs, Node.Matches]

theorem look {l : Look} (h : code[a]? = some (.look l)) :
    Runs code a (a + 1) (Node.look l).Matches := by
  refine single h fun c p => ?_
  by_cases hl : l.passes c.before c.rest.head?
  · simp [Inst.targets, Inst.ways, hl, Node.Matches, Prod.ext_iff, @eq_comm _ c]
  · simp [Inst.targets, Inst.ways, hl, Node.Matches]

/-- One or the other. -/
theorem either (h : code[a]? = some (Node.choice greedy x y)) (hx : Runs code x b R)
    (hy : Runs code y b S) : Runs code a b fun c d => R c d ∨ S c d := by
  refine ⟨fun n c hn => ?_, ?_⟩
  · obtain ⟨m, rfl, hm | hm⟩ := (ends_choice h).mp hn
    · obtain ⟨d, hR, l, hl, hd⟩ := hx.sound m c hm
      exact ⟨d, .inl hR, l, by omega, hd⟩
    · obtain ⟨d, hS, l, hl, hd⟩ := hy.sound m c hm
      exact ⟨d, .inr hS, l, by omega, hd⟩
  · rintro c d (hR | hS) hd
    · obtain ⟨m, hm⟩ := hx.complete c d hR hd
      exact ⟨m + 1, (ends_choice h).mpr ⟨m, rfl, .inl hm⟩⟩
    · obtain ⟨m, hm⟩ := hy.complete c d hS hd
      exact ⟨m + 1, (ends_choice h).mpr ⟨m, rfl, .inr hm⟩⟩

/-- **A body that leads back to the choice before it** runs any number of
rounds. -/
theorem loop (h : code[hub]? = some (Node.choice greedy x leave)) (hx : Runs code x hub R) :
    Runs code hub leave fun c d => ∃ n, Rounds R n c d := by
  refine ⟨fun n c hn => ?_, ?_⟩
  -- each round takes a step at least, the one at the choice
  · induction n using Nat.strongRecOn generalizing c with
    | ind n ih =>
      obtain ⟨m, rfl, hm | hm⟩ := (ends_choice h).mp hn
      · obtain ⟨e, hR, l, hl, he⟩ := hx.sound m c hm
        obtain ⟨d, ⟨k, hk⟩, l', hl', hd⟩ := ih l (by omega) e he
        exact ⟨d, ⟨k + 1, e, hR, hk⟩, l', by omega, hd⟩
      · exact ⟨c, ⟨0, rfl⟩, m, Nat.le_succ m, hm⟩
  · rintro c d ⟨k, hk⟩ hd
    induction k generalizing c with
    | zero =>
      obtain rfl : c = d := hk
      obtain ⟨m, hm⟩ := hd
      exact ⟨m + 1, (ends_choice h).mpr ⟨m, rfl, .inr hm⟩⟩
    | succ k ih =>
      obtain ⟨e, hR, hrounds⟩ := hk
      obtain ⟨m, hm⟩ := hx.complete c e hR (ih e hrounds)
      exact ⟨m + 1, (ends_choice h).mpr ⟨m, rfl, .inl hm⟩⟩

end Runs

/-! ## Code at an address -/

/-- The program has the instructions from an address on. -/
def Placed (code : Array Inst) : Nat → List Inst → Prop
  | _, [] => True
  | a, i :: rest => code[a]? = some i ∧ Placed code (a + 1) rest

theorem placed_append : Placed code a (first ++ second) ↔
    Placed code a first ∧ Placed code (a + first.length) second := by
  induction first generalizing a with
  | nil => simp [Placed]
  | cons i first ih =>
    rw [List.cons_append, Placed, Placed, ih, and_assoc, List.length_cons, Nat.add_assoc,
      Nat.add_comm 1]

/-- The whole code of a program. -/
theorem placed_toArray (is : List Inst) : Placed is.toArray 0 is := by
  suffices h : ∀ pre rest, is = pre ++ rest → Placed is.toArray pre.length rest from h [] is rfl
  intro pre rest his
  induction rest generalizing pre with
  | nil => trivial
  | cons i rest ih =>
    refine ⟨by simp [his], ?_⟩
    have hnext := ih (pre ++ [i]) (by simp [his])
    rwa [List.length_append, List.length_singleton] at hnext

/-- The first of several copies, and the others. -/
theorem copies_succ (times size : Nat) (emit : Nat → List Inst) (base : Nat) :
    Node.copies (times + 1) size emit base =
      emit base ++ Node.copies times size emit (base + size) := by
  have hnext : ∀ k, base + (k + 1) * size = base + size + k * size := by
    intro k
    rw [Nat.succ_mul]
    omega
  rw [Node.copies, List.range_succ_eq_map, List.flatMap_cons, List.flatMap_map, Nat.zero_mul,
    Nat.add_zero]
  simp only [Nat.succ_eq_add_one, hnext, Node.copies]

theorem length_copies {emit : Nat → List Inst} (h : ∀ a, (emit a).length = size) :
    (Node.copies times size emit base).length = times * size := by
  induction times generalizing base with
  | zero => simp [Node.copies]
  | succ times ih => rw [copies_succ, List.length_append, h, ih, Nat.succ_mul, Nat.add_comm]

namespace Node

/-- A node's code is as long as it says. -/
theorem length_emit (node : Node) (base : Nat) : (node.emit base).length = node.width := by
  induction node generalizing base with
  | empty | set | look => rfl
  | capture index name e ih => simp [emit, width, ih]
  | seq p q ihp ihq => simp [emit, width, ihp, ihq]
  | alt p q ihp ihq =>
    simp [emit, width, ihp, ihq]
    omega
  | repeated e least most greedy ih =>
    cases most with
    | none =>
      simp only [emit, width, roundsWidth]
      split
      · rename_i hleast
        simp [hleast, ih]
      · simp [length_copies ih]
    | some most => simp [emit, width, roundsWidth, length_copies, ih]

end Node

/-! ## Repetitions -/

/-- A copy among several. -/
theorem placed_of_copies {emit : Nat → List Inst} (hsize : ∀ a, (emit a).length = size)
    (h : Placed code base (Node.copies times size emit base)) (hm : m < times) :
    Placed code (base + m * size) (emit (base + m * size)) := by
  induction times generalizing base m with
  | zero => omega
  | succ times ih =>
    rw [copies_succ, placed_append, hsize] at h
    cases m with
    | zero => simpa using h.1
    | succ m =>
      have hcopy := ih h.2 (by omega : m < times)
      rwa [Nat.add_assoc, Nat.add_comm size, ← Nat.succ_mul] at hcopy

/-- **Copies run rounds.** -/
theorem Runs.copies {emit : Nat → List Inst} (hsize : ∀ a, (emit a).length = size)
    (hrun : ∀ a, Placed code a (emit a) → Runs code a (a + size) R)
    (h : Placed code base (Node.copies times size emit base)) :
    Runs code base (base + times * size) (Rounds R times) := by
  induction times generalizing base with
  | zero =>
    rw [Nat.zero_mul]
    exact Runs.refl
  | succ times ih =>
    rw [copies_succ, placed_append, hsize] at h
    have hrest := (hrun base h.1).comp (ih h.2)
    rwa [Nat.add_assoc, Nat.add_comm size, ← Nat.succ_mul] at hrest

/-- Copies that may be left before each run as many rounds as there are
copies, or fewer. -/
theorem Runs.optional {emit : Nat → List Inst} (hsize : ∀ a, (emit a).length = size)
    (hrun : ∀ a, Placed code a (emit a) → Runs code a (a + size) R)
    (h : Placed code base (Node.copies times (size + 1)
      (fun here => Node.choice greedy (here + 1) leave :: emit (here + 1)) base))
    (hleave : base + times * (size + 1) = leave) :
    Runs code base leave fun c d => ∃ n ≤ times, Rounds R n c d := by
  induction times generalizing base with
  | zero =>
    obtain rfl : base = leave := by omega
    exact Runs.refl.congr fun c d => by simp [Rounds]
  | succ times ih =>
    rw [copies_succ, placed_append, List.length_cons, hsize] at h
    obtain ⟨⟨hchoice, hbody⟩, hrest⟩ := h
    have hbody := hrun (base + 1) hbody
    rw [Nat.add_assoc, Nat.add_comm 1] at hbody
    rw [Nat.succ_mul] at hleave
    refine (Runs.either hchoice (hbody.comp (ih hrest (by omega))) .refl).congr fun c d => ?_
    constructor
    · rintro (⟨e, hR, n, hn, hrounds⟩ | rfl)
      · exact ⟨n + 1, by omega, e, hR, hrounds⟩
      · exact ⟨0, Nat.zero_le _, rfl⟩
    · rintro ⟨n, hn, hrounds⟩
      cases n with
      | zero => exact .inr hrounds
      | succ n =>
        obtain ⟨e, hR, hrounds⟩ := hrounds
        exact .inl ⟨e, hR, n, by omega, hrounds⟩

/-- Code that comes back to a choice runs any number of rounds. -/
theorem Runs.star {e : Node}
    (hrun : ∀ a, Placed code a (e.emit a) → Runs code a (a + e.width) e.Matches)
    (h : Placed code base ((Node.repeated e 0 none greedy).emit base)) :
    Runs code base (base + e.width + 2) fun c d => ∃ n, Rounds e.Matches n c d := by
  simp only [Node.emit, if_true, List.cons_append, Placed, placed_append, Node.length_emit] at h
  obtain ⟨hchoice, hbody, hback, -⟩ := h
  have hbody := hrun _ hbody
  split at hback
  -- the body can be empty: behind it the choice stands again
  · exact (Runs.either hchoice (hbody.comp (.loop hback hbody)) .refl).congr
      fun c d => exists_rounds_iff.symm
  · refine .loop hchoice ((hbody.comp (.jump hback)).congr fun c d => ?_)
    simp

/-- Code whose last copy comes back to a choice runs as many rounds as there
are copies, and more. -/
theorem Runs.plus {e : Node} (hleast : n ≠ 0)
    (hrun : ∀ a, Placed code a (e.emit a) → Runs code a (a + e.width) e.Matches)
    (h : Placed code base ((Node.repeated e n none greedy).emit base)) :
    Runs code base (base + n * e.width + 1) fun c d =>
      ∃ f, Rounds e.Matches n c f ∧ ∃ m, Rounds e.Matches m f d := by
  rw [Node.emit, if_neg hleast, placed_append, length_copies (Node.length_emit e)] at h
  obtain ⟨hcopies, hchoice, -⟩ := h
  have hlast := hrun _ (placed_of_copies (Node.length_emit e) hcopies (m := n - 1) (by omega))
  have hback : base + (n - 1) * e.width + e.width = base + n * e.width := by
    rw [Nat.add_assoc, ← Nat.succ_mul, Nat.succ_eq_add_one, Nat.sub_add_cancel (by omega)]
  rw [hback] at hlast
  exact (Runs.copies (Node.length_emit e) hrun hcopies).comp (.loop hchoice hlast)

/-- **A node's code runs what the node matches**, wherever it is placed. -/
theorem Node.runs (node : Node) (h : Placed code base (node.emit base)) :
    Runs code base (base + node.width) node.Matches := by
  induction node generalizing base with
  | empty => exact .refl
  | set s => exact .take h.1
  | look l => exact .look h.1
  | capture index name e ih =>
    rw [emit, List.cons_append, Placed, placed_append, length_emit] at h
    obtain ⟨hopen, hinner, hclose, -⟩ := h
    have hall := ((Runs.save hopen).comp (ih hinner)).comp (Runs.save hclose)
    rw [show base + 1 + e.width + 1 = base + (e.width + 2) by omega] at hall
    exact hall.congr fun c d => by simp [Matches]
  | seq p q ihp ihq =>
    rw [emit, placed_append, length_emit] at h
    have hboth := (ihp h.1).comp (ihq h.2)
    rwa [Nat.add_assoc] at hboth
  | alt p q ihp ihq =>
    simp only [emit, List.cons_append, Placed, placed_append, length_emit] at h
    obtain ⟨hfork, hp, hjump, hq⟩ := h
    rw [show base + 1 + p.width + 1 = base + p.width + 2 by omega] at hq
    have hchoice : code[base]? = some (choice true (base + 1) (base + p.width + 2)) := hfork
    have hwidth : base + (p.alt q).width = base + p.width + q.width + 2 := by
      rw [width]
      omega
    have hright := ihq hq
    rw [show base + p.width + 2 + q.width = base + p.width + q.width + 2 by omega] at hright
    have hleft := (ihp hp).comp (.jump hjump)
    rw [hwidth]
    exact (Runs.either hchoice hleft hright).congr fun c d => by simp [Matches]
  | repeated e least most greedy ih =>
    have hrun : ∀ a, Placed code a (e.emit a) → Runs code a (a + e.width) e.Matches :=
      fun _ => ih
    cases most with
    | some most =>
      rw [emit, placed_append, length_copies (length_emit e)] at h
      obtain ⟨hcopies, hoptional⟩ := h
      have hall := (Runs.copies (length_emit e) hrun hcopies).comp
        (.optional (length_emit e) hrun hoptional rfl)
      rw [Nat.add_assoc] at hall
      exact hall.congr fun c d => by simp [matches_repeated]
    | none =>
      by_cases hleast : least = 0
      · subst hleast
        have hall := Runs.star hrun h
        rw [width, roundsWidth, if_pos rfl, Nat.zero_mul, Nat.zero_add, ← Nat.add_assoc]
        exact hall.congr fun c d => by simp [Matches]
      · have hall := Runs.plus hleast hrun h
        rw [width, roundsWidth, if_neg hleast, ← Nat.add_assoc]
        exact hall.congr fun c d => by simp [matches_repeated]

/-! ## Matches -/

/-- **From its first address, a node's program reaches its end just where the
node matches.** -/
theorem Node.exists_ends_iff (node : Node) (c : Cursor) :
    (∃ n, Ends node.program.code n 0 c) ↔ ∃ d, node.Matches c d := by
  have hruns := node.runs (placed_toArray (node.emit 0))
  constructor
  · rintro ⟨n, hn⟩
    obtain ⟨d, hd, -⟩ := hruns.sound n c hn
    exact ⟨d, hd⟩
  · rintro ⟨d, hd⟩
    refine hruns.complete c d hd ⟨0, ?_⟩
    simp [Ends, length_emit]

end Pattern

end LogSift
