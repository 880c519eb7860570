import Mathlib.Algebra.Order.BigOperators.Group.List
import Mathlib.Algebra.Order.Ring.Nat
import Mathlib.Data.List.SplitBy
import LogSift.Proofs.Pattern.Stretches
import LogSift.Proofs.Pattern.Whole
/-!
# Room for patterns

A machine takes a state for each place of a byte sequence at most, so what a
set takes is bounded by the number of its sequences (`taken_addSet_le`), and
few ranges that do not go over the end of a block come to few sequences
(`roomOf_le`). A stretch takes what its sets take and a state for the loop,
whichever end of the text the machine starts at, so the source of a stretch is
accepted if there is room for its sets (`exists_ofSource_stretch`).
-/


namespace LogSift

namespace Pattern

variable {m : Machine} {sequences : List ByteSequence} {s : CharSet} {marks : List CharSet}

namespace Machine

/-! ## States -/

/-- The bytes that a machine takes. -/
def taken (m : Machine) : Nat := m.states * stateSize + m.extra

theorem isOver_eq_false_iff : m.isOver = false ↔ m.taken ≤ limit := by
  rw [isOver, decide_eq_false_iff_not, Nat.not_lt, taken]

@[simp]
theorem taken_add (m : Machine) (extra : Nat) :
    (m.add extra).taken = m.taken + (stateSize + extra) := by
  simp only [taken, add, Nat.succ_mul]
  omega

@[simp]
theorem taken_grow (m : Machine) (extra : Nat) : (m.grow extra).taken = m.taken + extra := by
  rw [taken, grow, taken, Nat.add_assoc]

@[simp]
theorem taken_addMany (m : Machine) (count : Nat) :
    (m.addMany count).taken = m.taken + count * stateSize := by
  simp only [taken, addMany, Nat.add_mul]
  omega

theorem taken_shared_le (target : Nat) (key : List Nat) (extra : Nat) (m : Machine) :
    (m.shared target key extra).1.taken ≤ m.taken + (stateSize + extra) := by
  simp only [shared]
  split
  · exact Nat.le_add_right _ _
  · simp only [taken, Nat.succ_mul]
    omega

/-! ## Sequences -/

/-- A place of a sequence takes a state at most, and a range in it. -/
def placeSize : Nat := stateSize + rangeSize

/-- What sequences add that start with the same bytes. -/
def readGroup (target depth : Nat) (read : Machine × List Nat) (group : List ByteSequence) :
    Machine × List Nat :=
  let (lo, hi) := (group.headD []).headD (0, 0)
  let tails := group.map List.tail
  let (m, next) :=
    if tails.all List.isEmpty then (read.1, target) else readFirst target depth tails read.1
  (m, next :: hi :: lo :: read.2)

theorem readFirst_succ (target depth : Nat) (sequences : List ByteSequence) (m : Machine) :
    readFirst target (depth + 1) sequences m =
      let groups := sequences.splitBy fun a b => a.head? = b.head?
      let read := groups.foldl (readGroup target depth) (m, [])
      shared target read.2.reverse (groups.length * rangeSize) read.1 := rfl

/-- Groups take what their sequences take behind the first byte. -/
theorem taken_readGroups_le {target depth : Nat}
    (h : ∀ sequences ≠ [], ∀ m, (readFirst target depth sequences m).1.taken ≤
      m.taken + sequences.length * (depth * placeSize))
    (groups : List (List ByteSequence)) (hne : ∀ group ∈ groups, group ≠ [])
    (read : Machine × List Nat) :
    groups.length ≤ groups.flatten.length ∧ (groups.foldl (readGroup target depth) read).1.taken ≤
      read.1.taken + groups.flatten.length * (depth * placeSize) := by
  induction groups generalizing read with
  | nil => exact ⟨Nat.le_refl _, Nat.le_add_right _ _⟩
  | cons group groups ih =>
    obtain ⟨hgroup, hne⟩ := List.forall_mem_cons.mp hne
    obtain ⟨hlength, htaken⟩ := ih hne (readGroup target depth read group)
    have hpos := List.length_pos_iff.mpr hgroup
    have hread : (readGroup target depth read group).1.taken ≤
        read.1.taken + group.length * (depth * placeSize) := by
      simp only [readGroup]
      split
      · exact Nat.le_add_right _ _
      · simpa using h _ (mt List.map_eq_nil_iff.mp hgroup) read.1
    rw [List.flatten_cons, List.length_append, List.length_cons, List.foldl_cons, Nat.add_mul]
    omega

/-- **What sequences take** goes by their number and by the number of their places. -/
theorem taken_readFirst_le (hne : sequences ≠ []) (target depth : Nat) (m : Machine) :
    (readFirst target depth sequences m).1.taken ≤
      m.taken + sequences.length * (depth * placeSize) := by
  induction depth generalizing sequences m with
  | zero => exact Nat.le_add_right _ _
  | succ depth ih =>
    obtain ⟨hlength, htaken⟩ := taken_readGroups_le (fun _ hne => ih hne)
      (sequences.splitBy fun a b => a.head? = b.head?)
      (fun group hgroup => List.ne_nil_of_mem_splitBy hgroup) (m, [])
    rw [List.flatten_splitBy] at hlength htaken
    have hpos := List.length_pos_iff.mpr hne
    rw [readFirst_succ]
    refine (taken_shared_le _ _ _ _).trans ?_
    rw [Nat.succ_mul, Nat.mul_add]
    simp only [placeSize, rangeSize, stateSize] at htaken ⊢
    omega

/-- A sequence that is read from its back takes a state for each place at most. -/
theorem taken_readBack_le (target : Nat) (sequence : ByteSequence) (m : Machine) :
    (readBack target sequence m).taken ≤ m.taken + sequence.length * stateSize := by
  suffices h : ∀ (read : Machine × Nat), (sequence.foldl
      (fun (m, next) (lo, hi) => shared target [next, lo, hi] 0 m) read).1.taken ≤
        read.1.taken + sequence.length * stateSize from h (m, target)
  induction sequence with
  | nil => exact fun read => Nat.le_add_right _ _
  | cons range sequence ih =>
    intro read
    have hshared := taken_shared_le target [read.2, range.1, range.2] 0 read.1
    have hrest := ih (shared target [read.2, range.1, range.2] 0 read.1)
    rw [List.foldl_cons, List.length_cons, Nat.succ_mul]
    exact hrest.trans (by omega)

theorem length_bytes_le (n : Nat) : (ByteSequence.bytes n).length ≤ 4 := by
  rw [ByteSequence.bytes]
  split
  · simp
  · split
    · simp
    · split <;> simp

/-- A character has four bytes at most. -/
theorem length_le_of_mem_ofSet {sequence : ByteSequence} (h : sequence ∈ ByteSequence.ofSet s) :
    sequence.length ≤ 4 := by
  obtain ⟨range, -, h⟩ := List.mem_flatMap.mp h
  obtain ⟨p, -, rfl⟩ := List.mem_map.mp h
  rw [List.length_zip]
  exact (Nat.min_le_left _ _).trans (length_bytes_le _)

theorem taken_addSequences_le (d : Direction)
    (hlength : ∀ sequence ∈ sequences, sequence.length ≤ 4) (m : Machine) :
    (m.addSequences d sequences).taken ≤
      m.taken + 2 * stateSize + sequences.length * (4 * placeSize) := by
  cases d with
  | forward =>
    have hadd := taken_add m 0
    by_cases hne : sequences = []
    · have hshared := taken_shared_le m.states [] 0 (m.add 0)
      subst hne
      exact hshared.trans (by omega)
    · have hread := taken_readFirst_le hne m.states 4 (m.add 0)
      rw [addSequences]
      omega
  | backward =>
    have hback : ∀ (read : Machine), (sequences.foldl
        (fun acc s => (readBack (m.states + 1) s acc).grow waySize) read).taken ≤
          read.taken + sequences.length * (4 * placeSize) := by
      induction sequences with
      | nil => exact fun read => Nat.le_add_right _ _
      | cons sequence sequences ih =>
        intro read
        obtain ⟨hfirst, hlength⟩ := List.forall_mem_cons.mp hlength
        have hread := taken_readBack_le (m.states + 1) sequence read
        have hstates := Nat.mul_le_mul_right stateSize hfirst
        rw [List.foldl_cons, List.length_cons, Nat.succ_mul]
        refine (ih hlength _).trans ?_
        simp only [taken_grow, placeSize, rangeSize, waySize, stateSize] at hread hstates ⊢
        omega
    refine (hback _).trans ?_
    simp only [taken_add]
    omega

/-! ## Sets -/

/-- What a set may take. -/
def roomOf (s : CharSet) : Nat :=
  4 * stateSize + s.ranges.length * rangeSize + (ByteSequence.ofSet s).length * (4 * placeSize)

/-- **A set takes no more than its room.** -/
theorem taken_addSet_le (d : Direction) (s : CharSet) (m : Machine) :
    (m.addSet d s).taken ≤ m.taken + roomOf s := by
  rw [addSet, roomOf]
  split
  · simp only [taken_add]
    omega
  · have hsequences := taken_addSequences_le d (fun _ => length_le_of_mem_ofSet (s := s)) m
    omega

/-- A range within a block of 64 is not cut. -/
theorem cut?_of_block {lo hi : Nat} (h : lo / 64 = hi / 64) : ByteSequence.cut? lo hi = none := by
  have hlarge : lo / (64 * 64) = hi / (64 * 64) := by
    rw [← Nat.div_div_eq_div_mul, h, Nat.div_div_eq_div_mul]
  have hlargest : lo / (64 * 64 * 64) = hi / (64 * 64 * 64) := by
    rw [← Nat.div_div_eq_div_mul, hlarge, Nat.div_div_eq_div_mul]
  have hends : ∀ last, last / 64 < (last + 1) / 64 → ¬ (lo ≤ last && last < hi) = true := by
    intro last hlast hcross
    rw [Bool.and_eq_true, decide_eq_true_eq, decide_eq_true_eq] at hcross
    have hlo := Nat.div_le_div_right (c := 64) hcross.1
    have hhi := Nat.div_le_div_right (c := 64) (Nat.succ_le_of_lt hcross.2)
    omega
  rw [ByteSequence.cut?, if_neg (hends _ (by decide)), if_neg (hends _ (by decide)),
    if_neg (hends _ (by decide))]
  split
  · rfl
  · simp [h, hlarge, hlargest]

theorem length_parts_le (fuel lo hi : Nat) (h : lo ≤ hi → lo / 64 = hi / 64) :
    (ByteSequence.parts (fuel + 1) lo hi).length ≤ 1 := by
  rw [ByteSequence.parts]
  split
  · exact Nat.zero_le 1
  · rw [cut?_of_block (h (by omega))]
    exact Nat.le_refl 1

/-- **A range within a block of 64 comes to few sequences.** -/
theorem length_ofSet_le (h : ∀ r ∈ s.ranges, r.1 / 64 = r.2 / 64) :
    (ByteSequence.ofSet s).length ≤ s.ranges.length * 2 := by
  have hrange : ∀ r ∈ s.ranges, (ByteSequence.ofRange r).length ≤ 2 := by
    intro r hr
    have hblock := h r hr
    have hbelow := length_parts_le 63 r.1 (min r.2 0xD7FF) fun hle => by omega
    have habove := length_parts_le 63 (max r.1 0xE000) r.2 fun hle => by omega
    rw [ByteSequence.ofRange, List.length_map, List.length_append]
    exact Nat.add_le_add hbelow habove
  rw [ByteSequence.ofSet, List.length_flatMap]
  refine (List.sum_le_card_nsmul _ 2 (List.forall_mem_map.mpr hrange)).trans_eq ?_
  rw [List.length_map]
  rfl

/-- Few ranges within blocks take little room. -/
theorem roomOf_le {n : Nat} (h : ∀ r ∈ s.ranges, r.1 / 64 = r.2 / 64) (hfew : s.ranges.length ≤ n) :
    roomOf s ≤ 128 + n * 328 := by
  have hsequences := length_ofSet_le h
  simp only [roomOf, placeSize, stateSize, rangeSize]
  omega

end Machine

namespace Node

open Machine (roomOf)

/-! ## Nodes -/

/-- **A node takes no more than some bytes**, whatever is built before it. -/
def Takes (n : Node) (room : Nat) : Prop :=
  ∀ d m, (build d .first n m).taken ≤ m.taken + room

variable {a b n : Node} {room more : Nat}

theorem Takes.seq (ha : a.Takes room) (hb : b.Takes more) : (seq a b).Takes (room + more) := by
  intro d m
  cases d with
  | forward =>
    have hfirst := ha .forward m
    exact (hb .forward _).trans (by omega)
  | backward =>
    have hfirst := hb .backward m
    exact (ha .backward _).trans (by omega)

theorem takes_set (s : CharSet) : (set s).Takes (roomOf s) := by
  intro d m
  simp only [build, Place.finish]
  split
  · rename_i n _
    have hstates := Nat.mul_le_mul_right Machine.stateSize (Machine.length_bytes_le n)
    rw [Machine.taken_addMany, roomOf]
    omega
  · exact Machine.taken_addSet_le d s m

theorem takes_look (l : Look) : (look l).Takes 32 := fun _ m => (Machine.taken_add m 0).le

theorem Takes.mono (h : n.Takes room) (hle : room ≤ more) : n.Takes more :=
  fun d m => (h d m).trans (Nat.add_le_add_left hle _)

/-- The loop takes one state more. -/
theorem takes_stretch (hmarks : ∀ mark ∈ marks, roomOf mark ≤ room) (hs : roomOf s ≤ room) :
    (stretch s marks).Takes (marks.length * room + (room + 40)) := by
  induction marks with
  | nil =>
    intro d m
    have hset := (takes_set s).mono hs d m
    have hloop : build d .first (stretch s []) m =
        (buildCopies 1 (build d .first (.set s)) m).add (2 * Machine.waySize) := rfl
    rw [hloop, Machine.taken_add, List.length_nil, Nat.zero_mul, buildCopies]
    split
    all_goals
      simp only [buildCopies, Machine.stateSize, Machine.waySize]
      omega
  | cons first marks ih =>
    obtain ⟨hfirst, hmarks⟩ := List.forall_mem_cons.mp hmarks
    refine (((takes_set first).mono hfirst).seq (ih hmarks)).mono ?_
    rw [List.length_cons, Nat.succ_mul]
    omega

/-- **What takes no more than the limit is small enough**, with some bytes for what is before it
and behind it. -/
theorem Takes.fits (h : n.Takes room) (hroom : room + 300 ≤ Machine.limit) : n.fits = true := by
  have hbefore : ∀ (anchor : Look) (m : Machine), (if n.isAnchored anchor then m.add 0
      else ((m.add (2 * Machine.waySize)).add 0).add Machine.rangeSize).taken ≤ m.taken + 112 := by
    intro anchor m
    split
    all_goals
      simp only [Machine.taken_add, Machine.stateSize, Machine.waySize, Machine.rangeSize]
      omega
  have hstart : ∀ d, (Machine.start d).taken = 0 := fun d => by cases d <;> rfl
  have hmachine : ∀ d, (n.machine d).taken ≤ room + 300 := by
    intro d
    cases d with
    | forward =>
      have hbefore := hbefore .textStart (.start .forward)
      rw [hstart] at hbefore
      rw [machine]
      generalize (if n.isAnchored .textStart then _ else _ : Machine) = m at hbefore ⊢
      have hnode := h .forward (m.add 0)
      simp only [Machine.taken_add, Machine.stateSize] at hnode ⊢
      omega
    | backward =>
      have hbefore := hbefore .textEnd (.start .backward)
      rw [hstart] at hbefore
      rw [machine]
      generalize (if n.isAnchored .textEnd then _ else _ : Machine) = m at hbefore ⊢
      have hnode := h .backward m
      simp only [Machine.taken_add, Machine.stateSize] at hnode ⊢
      omega
  have hover : ∀ d, (n.machine d).isOver = false := fun d =>
    Machine.isOver_eq_false_iff.mpr ((hmachine d).trans hroom)
  rw [Node.fits, hover, hover]
  rfl

theorem fits_stretch (hmarks : ∀ mark ∈ marks, roomOf mark ≤ room) (hs : roomOf s ≤ room)
    (hroom : (marks.length + 1) * room + 500 ≤ Machine.limit) :
    (stretch s marks).fits = true ∧ (stretch s marks).anchored.fits = true := by
  have hstretch := takes_stretch hmarks hs
  rw [Nat.succ_mul] at hroom
  refine ⟨hstretch.fits (by omega), ?_⟩
  have hanchored : (stretch s marks).anchored =
      .seq (.look .textStart) (.seq (stretch s marks) (.look .textEnd)) := by
    cases marks <;> rfl
  rw [hanchored]
  exact ((takes_look _).seq (hstretch.seq (takes_look _))).fits (by omega)

theorem closed_stretch (s : CharSet) (marks : List CharSet) :
    (stretch s marks).closed = stretch s marks := by
  cases marks <;> rfl

end Node

/-- **A source that means a stretch is accepted** if its sets leave room. -/
theorem exists_ofSource_stretch {source : String} {e : Expr} {mode : Mode} {room : Nat}
    (hread : Expr.read source.toList = .ok e)
    (hmeaning : e.meaning Mode.initial = .ok (Node.stretch s marks, mode))
    (hplain : '#' ∉ source.toList) (hdepth : e.depth .alone + 2 ≤ nestLimit)
    (hmarks : ∀ mark ∈ marks, Machine.roomOf mark ≤ room) (hs : Machine.roomOf s ≤ room)
    (hroom : (marks.length + 1) * room + 500 ≤ Machine.limit) :
    ∃ p, ofSource source = .ok p ∧ p.finder = (Node.stretch s marks).program := by
  obtain ⟨hfits, hwhole⟩ := Node.fits_stretch hmarks hs hroom
  have hclosed := Node.closed_stretch s marks
  have hnode : node source.toList = .ok (Node.stretch s marks) :=
    node_eq_ok_iff.mpr ⟨e, _, mode, hread, hmeaning, by rwa [hclosed], hclosed⟩
  exact ⟨_, ofSource_eq_ok_iff_node.mpr ⟨e, _, hread, hnode,
    ⟨fun hcomment => hplain (spelled_of_endsInComment hcomment).1, hdepth, hwhole⟩, rfl⟩, rfl⟩

end Pattern

end LogSift
