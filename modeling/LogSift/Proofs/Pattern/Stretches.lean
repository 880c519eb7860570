import LogSift.Proofs.Line.Replace
import LogSift.Proofs.Pattern.Search
/-!
# Patterns for stretches of a text

A stretch is made of some characters, each of a set of its own, and of a run
of characters of one more set, which goes on as far as it can (`stretch?`). The
node for it takes the characters and then goes round a loop. A search tries an
address at a place only once, but in a stretch each place of the loop is new
(`LoopTried`, `StretchTried`), and so what it finds is the first stretch of
the text (`find?_stretch`). To replace the matches of such a node is therefore
to replace each stretch as it is come to (`splice_stretches`).
-/


namespace LogSift

namespace Pattern

variable {s first : CharSet} {marks : List CharSet} {c : Char} {cs pre front run back : List Char}
variable {code : Array Inst} {seen : Seen} {threads : List Thread} {t : Thread} {i : Inst}
variable {a k fuel : Nat}

/-! ## Stretches -/

/-- **The stretch at the start of a text**, and what is behind it. -/
def stretch? (s : CharSet) : List CharSet → List Char → Option (List Char × List Char)
  | [], cs =>
    if cs.head?.any s.contains then some (cs.takeWhile s.contains, cs.dropWhile s.contains)
    else none
  | _ :: _, [] => none
  | first :: marks, c :: cs =>
    if first.contains c then (stretch? s marks cs).map fun found => (c :: found.1, found.2)
    else none

/-- **The first stretch of a text**, between what is before it and what is behind it. -/
def firstStretch? (s : CharSet) (marks : List CharSet) :
    List Char → Option (List Char × List Char × List Char)
  | [] => none
  | c :: cs =>
    match stretch? s marks (c :: cs) with
    | some found => some ([], found)
    | none => (firstStretch? s marks cs).map fun found => (c :: found.1, found.2)

theorem stretch?_nil (s : CharSet) (marks : List CharSet) : stretch? s marks [] = none := by
  cases marks <;> rfl

theorem stretch?_of_not (h : cs.head?.any first.contains = false) :
    stretch? s (first :: marks) cs = none := by
  cases cs with
  | nil => rfl
  | cons c cs =>
    rw [List.head?_cons, Option.any_some] at h
    rw [stretch?, if_neg (by simp [h])]

/-- A stretch has a character at least. -/
theorem of_stretch? (h : stretch? s marks cs = some (run, back)) :
    run ≠ [] ∧ cs = run ++ back := by
  fun_induction stretch? s marks cs generalizing run with
  | case1 cs hrun =>
    obtain ⟨rfl, rfl⟩ := Prod.mk.inj (Option.some.inj h)
    refine ⟨?_, List.takeWhile_append_dropWhile.symm⟩
    cases cs with
    | nil => cases hrun
    | cons c cs =>
      rw [List.head?_cons, Option.any_some] at hrun
      rw [List.takeWhile_cons_of_pos hrun]
      exact List.cons_ne_nil _ _
  | case2 => cases h
  | case3 => cases h
  | case4 first marks c cs _ ih =>
    simp only [Option.map_eq_some_iff, Prod.exists, Prod.mk.injEq] at h
    obtain ⟨run, back, hfound, rfl, rfl⟩ := h
    exact ⟨List.cons_ne_nil _ _, by rw [(ih hfound).2, List.cons_append]⟩
  | case5 => cases h

theorem of_firstStretch? (h : firstStretch? s marks cs = some (front, run, back)) :
    run ≠ [] ∧ cs = front ++ (run ++ back) := by
  fun_induction firstStretch? s marks cs generalizing front with
  | case1 => cases h
  | case2 c cs found hfound =>
    obtain ⟨rfl, rfl⟩ := Prod.mk.inj (Option.some.inj h)
    exact of_stretch? hfound
  | case3 c cs _ ih =>
    simp only [Option.map_eq_some_iff, Prod.exists, Prod.mk.injEq] at h
    obtain ⟨front, run, back, hfound, rfl, rfl, rfl⟩ := h
    obtain ⟨hne, rfl⟩ := ih hfound
    exact ⟨hne, rfl⟩

/-- **The node for a stretch.** -/
def Node.stretch (s : CharSet) : List CharSet → Node
  | [] => .repeated (.set s) 1 none true
  | first :: marks => .seq (.set first) (stretch s marks)

/-- Its code ends in a loop. -/
theorem emit_stretch (s : CharSet) (marks : List CharSet) (a : Nat) :
    (Node.stretch s marks).emit a =
      marks.map .take ++ [.take s, .fork (a + marks.length) (a + marks.length + 2)] := by
  induction marks generalizing a with
  | nil => simp [Node.stretch, Node.emit, Node.copies, Node.choice, Node.width]
  | cons first marks ih =>
    rw [Node.stretch, Node.emit, ih, Node.emit, Node.width, List.length_cons]
    simp [Nat.add_assoc, Nat.add_comm 1]

/-! ## What has been tried -/

namespace Seen

variable {P Q : Nat → Nat → Prop}

/-- **Only such pairs have been tried.** -/
def Only (seen : Seen) (P : Nat → Nat → Prop) : Prop :=
  ∀ a left, seen.holds a left = true → P a left

theorem Only.mono (h : seen.Only P) (hPQ : ∀ a left, P a left → Q a left) : seen.Only Q :=
  fun a left hold => hPQ a left (h a left hold)

/-- A pair that is marked may stand for places before it, but for none behind it. -/
theorem Only.mark (h : seen.Only P) (hleft : t.place.left ≤ seen.width)
    (hP : ∀ left, t.place.left ≤ left → P t.address left) : (seen.mark t).Only P := by
  intro a left hold
  rcases holds_mark.mp hold with hold | ⟨rfl, hrow⟩
  · exact h a left hold
  · refine hP left ?_
    rw [row] at hrow
    omega

theorem Only.has (h : seen.Only P) (hP : ¬ P t.address t.place.left) : seen.has t = false :=
  Bool.eq_false_iff.mpr fun hold => hP (h _ _ hold)

theorem only_empty (width : Nat) : (empty width).Only P := fun a left hold => by
  rw [empty_holds] at hold
  cases hold

end Seen

/-! ## Steps of a search -/

/-- A thread that has noted nothing. -/
def Thread.plain (a : Nat) (pre rest : List Char) : Thread := ⟨a, .between pre rest, []⟩

@[simp]
theorem Thread.plain_address (a : Nat) (pre rest : List Char) :
    (plain a pre rest).address = a := rfl

@[simp]
theorem Thread.plain_left (a : Nat) (pre rest : List Char) :
    (plain a pre rest).place.left = rest.length := rfl

theorem explore_nil (code : Array Inst) (fuel : Nat) (seen : Seen) :
    explore code fuel seen [] = (seen, none) := by
  cases fuel <;> rfl

theorem explore_step (hseen : seen.has t = false) (hcode : code[t.address]? = some i) :
    explore code (fuel + 1) seen (t :: threads) =
      explore code fuel (seen.mark t) (i.ways t ++ threads) := by
  rw [explore, if_neg (by simp [hseen])]
  simp only [hcode]

theorem explore_stop (hseen : seen.has t = false) (hcode : code[t.address]? = none) :
    explore code (fuel + 1) seen (t :: threads) = (seen, some t) := by
  rw [explore, if_neg (by simp [hseen])]
  simp only [hcode]

theorem explore_take (hseen : seen.has (.plain a pre (c :: cs)) = false)
    (hcode : code[a]? = some (.take s)) (hc : s.contains c = true) :
    explore code (fuel + 1) seen (.plain a pre (c :: cs) :: threads) =
      explore code fuel (seen.mark (.plain a pre (c :: cs)))
        (.plain (a + 1) (pre ++ [c]) cs :: threads) := by
  rw [explore_step hseen hcode]
  simp [Inst.ways, Thread.plain, Cursor.next?_between, hc]

/-- A thread that cannot take the next character is given up. -/
theorem explore_take_of_not (hseen : seen.has (.plain a pre cs) = false)
    (hcode : code[a]? = some (.take s)) (hcs : cs.head?.any s.contains = false) :
    explore code (fuel + 1) seen (.plain a pre cs :: threads) =
      explore code fuel (seen.mark (.plain a pre cs)) threads := by
  rw [explore_step hseen hcode]
  cases cs with
  | nil => rfl
  | cons c cs =>
    rw [List.head?_cons, Option.any_some] at hcs
    simp [Inst.ways, Thread.plain, Cursor.next?_between, hcs]

/-! ## The loop -/

/-- **The program ends in a loop** over the characters of a set. -/
structure LoopsAt (code : Array Inst) (k : Nat) (s : CharSet) : Prop where
  take : code[k]? = some (.take s)
  fork : code[k + 1]? = some (.fork k (k + 2))
  stop : code[k + 2]? = none

/-- What may have been tried before the loop is come to at a place with `n` characters behind it:
of the loop, nothing that is still ahead. -/
def LoopTried (k n a left : Nat) : Prop :=
  a < k ∨ (a = k ∧ n < left) ∨ (a = k + 1 ∧ n ≤ left)

/-- **A round of the loop takes a character**, and leaves the way out for later. -/
theorem explore_round (hloop : LoopsAt code k s) (hc : s.contains c = true)
    (hwidth : cs.length + 1 ≤ seen.width) (hseen : seen.Only (LoopTried k (cs.length + 1))) :
    ∃ seen', seen'.width = seen.width ∧ seen'.Only (LoopTried k cs.length) ∧
      explore code (fuel + 2) seen (.plain k pre (c :: cs) :: threads) =
        explore code fuel seen'
          (.plain k (pre ++ [c]) cs :: .plain (k + 2) (pre ++ [c]) cs :: threads) := by
  let taken := seen.mark (.plain k pre (c :: cs))
  have htaken : taken.Only fun a left => a < k ∨ (a ≤ k + 1 ∧ cs.length < left) := by
    refine (hseen.mono fun a left h => ?_).mark hwidth fun left hleft => ?_
    · unfold LoopTried at h
      omega
    · exact .inr ⟨Nat.le_succ k, hleft⟩
  refine ⟨taken.mark (.plain (k + 1) (pre ++ [c]) cs), rfl, ?_, ?_⟩
  · refine (htaken.mono fun a left h => ?_).mark (Nat.le_of_succ_le hwidth) fun left hleft => ?_
    · unfold LoopTried
      omega
    · exact .inr (.inr ⟨rfl, hleft⟩)
  · rw [explore_take (hseen.has (by simp [LoopTried])) hloop.take hc,
      explore_step (htaken.has (by simp)) hloop.fork]
    rfl

/-- Where the run ends, the way out is taken. -/
theorem explore_way_out (hloop : LoopsAt code k s) (hcs : cs.head?.any s.contains = false)
    (hwidth : cs.length ≤ seen.width) (hseen : seen.Only (LoopTried k cs.length)) :
    (explore code (fuel + 2) seen (.plain k pre cs :: .plain (k + 2) pre cs :: threads)).2 =
      some (.plain (k + 2) pre cs) := by
  have htried : (seen.mark (.plain k pre cs)).Only fun a left => a ≤ k + 1 := by
    refine (hseen.mono fun a left h => ?_).mark hwidth fun left _ => Nat.le_succ k
    unfold LoopTried at h
    omega
  rw [explore_take_of_not (hseen.has (by simp [LoopTried])) hloop.take hcs,
    explore_stop (htried.has (by simp)) hloop.stop]

/-- **The loop goes on as far as the run does**: at each place it is tried first to go on. -/
theorem explore_run (hloop : LoopsAt code k s) (hwidth : cs.length ≤ seen.width)
    (hseen : seen.Only (LoopTried k cs.length)) (hfuel : 2 * cs.length + 2 ≤ fuel) :
    (explore code fuel seen (.plain k pre cs :: .plain (k + 2) pre cs :: threads)).2 =
      some (.plain (k + 2) (pre ++ cs.takeWhile s.contains) (cs.dropWhile s.contains)) := by
  induction cs generalizing pre seen threads fuel with
  | nil =>
    obtain ⟨fuel, rfl⟩ := Nat.exists_eq_add_of_le' hfuel
    rw [List.takeWhile_nil, List.dropWhile_nil, List.append_nil]
    exact explore_way_out hloop rfl hwidth hseen
  | cons c cs ih =>
    obtain ⟨fuel, rfl⟩ := Nat.exists_eq_add_of_le' (show 2 ≤ fuel by omega)
    by_cases hc : s.contains c = true
    · rw [List.length_cons] at hwidth hseen hfuel
      obtain ⟨seen', hwidth', hseen', hround⟩ := explore_round hloop hc hwidth hseen
      rw [hround, ih (by omega) hseen' (by omega), List.takeWhile_cons_of_pos hc,
        List.dropWhile_cons_of_pos hc, List.append_assoc, List.singleton_append]
    · rw [List.takeWhile_cons_of_neg hc, List.dropWhile_cons_of_neg hc, List.append_nil]
      exact explore_way_out hloop (by simpa using hc) hwidth hseen

/-- So the whole run is found, if there is one. -/
theorem explore_loop (pre : List Char) (threads : List Thread) (hloop : LoopsAt code k s)
    (hwidth : cs.length ≤ seen.width)
    (hseen : seen.Only (LoopTried k cs.length)) (hfuel : 2 * cs.length + 2 ≤ fuel)
    (hcs : cs.head?.any s.contains = true) :
    (explore code fuel seen (.plain k pre cs :: threads)).2 =
      some (.plain (k + 2) (pre ++ cs.takeWhile s.contains) (cs.dropWhile s.contains)) := by
  cases cs with
  | nil => cases hcs
  | cons c cs =>
    obtain ⟨fuel, rfl⟩ := Nat.exists_eq_add_of_le' (show 2 ≤ fuel by omega)
    rw [List.length_cons] at hwidth hseen hfuel
    have hc : s.contains c = true := hcs
    obtain ⟨seen', hwidth', hseen', hround⟩ := explore_round hloop hc hwidth hseen
    rw [hround, explore_run hloop (by omega) hseen' (by omega), List.takeWhile_cons_of_pos hc,
      List.dropWhile_cons_of_pos hc, List.append_assoc, List.singleton_append]

/-! ## Searching from a place -/

/-- What may have been tried when a search that has started with `n` characters ahead is at address
`a`. An address before the loop is come to when as many characters have been read as its number
says, so it tells the start: that is this one or an earlier one, and if it is this one, the address
comes before `a`. -/
def StretchTried (k n a b left : Nat) : Prop := b ≤ k ∧ n ≤ left + b ∧ (a ≤ b → n < left + b)

theorem has_of_stretchTried (h : seen.Only (StretchTried k (a + cs.length) a)) :
    seen.has (.plain a pre cs) = false := by
  refine h.has fun htried => ?_
  have hlt := htried.2.2 (Nat.le_refl a)
  rw [Thread.plain_left, Thread.plain_address] at hlt
  omega

theorem stretchTried_mark (pre : List Char) (h : seen.Only (StretchTried k (a + cs.length) a))
    (ha : a ≤ k) (hwidth : cs.length ≤ seen.width) :
    (seen.mark (.plain a pre cs)).Only (StretchTried k (a + cs.length) (a + 1)) := by
  refine (h.mono fun b left htried => ?_).mark hwidth fun left hleft => ?_
  · exact ⟨htried.1, htried.2.1, fun hb => htried.2.2 (Nat.le_of_succ_le hb)⟩
  · rw [Thread.plain_left] at hleft
    rw [Thread.plain_address, StretchTried]
    omega

/-- **From a place a stretch is found if it starts there.** If none does, only addresses of this
start and of earlier ones have been tried. -/
theorem explore_stretch (pre cs : List Char)
    (hcode : Placed code a (marks.map .take ++ [.take s, .fork k (k + 2)]))
    (hk : a + marks.length = k) (hstop : code[k + 2]? = none) (hwidth : cs.length ≤ seen.width)
    (hseen : seen.Only (StretchTried k (a + cs.length) a)) (hfuel : 2 * cs.length + 2 ≤ fuel) :
    ∃ seen', explore code fuel seen [.plain a pre cs] =
        (seen', (stretch? s marks cs).map fun found => .plain (k + 2) (pre ++ found.1) found.2) ∧
      (stretch? s marks cs = none →
        seen'.width = seen.width ∧ seen'.Only (StretchTried k (a + cs.length) (k + 1))) := by
  -- on the characters before the run; the invariant moves from one address to the next
  induction marks generalizing a pre cs seen fuel with
  | nil =>
    obtain ⟨htake, hfork, -⟩ := hcode
    obtain rfl : a = k := hk
    cases hcs : cs.head?.any s.contains with
    | false =>
      obtain ⟨fuel, rfl⟩ := Nat.exists_eq_add_of_le' (show 1 ≤ fuel by omega)
      rw [explore_take_of_not (has_of_stretchTried hseen) htake hcs, explore_nil, stretch?,
        if_neg (by simp [hcs])]
      exact ⟨_, rfl, fun _ => ⟨rfl, stretchTried_mark pre hseen (Nat.le_refl a) hwidth⟩⟩
    | true =>
      have htried : seen.Only (LoopTried a cs.length) := hseen.mono fun b left h => by
        unfold StretchTried at h
        unfold LoopTried
        omega
      have hrun := explore_loop pre [] ⟨htake, hfork, hstop⟩ hwidth htried
        hfuel hcs
      rw [stretch?, if_pos hcs]
      exact ⟨_, Prod.ext rfl hrun, fun h => by cases h⟩
  | cons first marks ih =>
    obtain ⟨htake, hcode⟩ := hcode
    rw [List.length_cons] at hk
    obtain ⟨fuel, rfl⟩ := Nat.exists_eq_add_of_le' (show 1 ≤ fuel by omega)
    have hmarked := stretchTried_mark pre hseen (by omega) hwidth
    cases hcs : cs.head?.any first.contains with
    | false =>
      rw [explore_take_of_not (has_of_stretchTried hseen) htake hcs, explore_nil,
        stretch?_of_not hcs]
      refine ⟨_, rfl, fun _ => ⟨rfl, hmarked.mono fun b left h => ?_⟩⟩
      exact ⟨h.1, h.2.1, fun hb => h.2.2 (by omega)⟩
    | true =>
      cases cs with
      | nil => cases hcs
      | cons c cs =>
        have hc : first.contains c = true := hcs
        have hsame : a + (c :: cs).length = a + 1 + cs.length := by
          rw [List.length_cons]
          omega
        rw [List.length_cons] at hfuel
        rw [explore_take (has_of_stretchTried hseen) htake hc, stretch?, if_pos hc]
        rw [hsame] at hmarked ⊢
        obtain ⟨seen', hexplore, hnone⟩ := ih (pre ++ [c]) cs hcode (by omega)
          (by exact Nat.le_of_succ_le hwidth) hmarked (show 2 * cs.length + 2 ≤ fuel by omega)
        refine ⟨seen', ?_, fun h => hnone (Option.map_eq_none_iff.mp h)⟩
        rw [hexplore, Option.map_map]
        simp only [Function.comp_def, List.append_assoc, List.singleton_append]

/-- **The program for a stretch finds the one that starts at a place**, or leaves the places behind
it as they were. -/
theorem explore_program (s : CharSet) (pre : List Char) (hwidth : cs.length ≤ seen.width)
    (hseen : seen.Only (StretchTried marks.length cs.length 0)) (hfuel : 2 * cs.length + 2 ≤ fuel) :
    ∃ seen', explore (Node.stretch s marks).program.code fuel seen [.plain 0 pre cs] =
        (seen', (stretch? s marks cs).map fun found =>
          .plain (marks.length + 2) (pre ++ found.1) found.2) ∧
      (stretch? s marks cs = none → seen'.width = seen.width ∧
        ∀ n < cs.length, seen'.Only (StretchTried marks.length n 0)) := by
  have hemit := emit_stretch s marks 0
  rw [Nat.zero_add] at hemit
  have hcode := placed_toArray ((Node.stretch s marks).emit 0)
  have hstop : (Node.stretch s marks).program.code[marks.length + 2]? = none := by
    simp [Node.program, hemit]
  obtain ⟨seen', hexplore, hnone⟩ := explore_stretch (s := s) pre cs
    (hemit ▸ hcode) (Nat.zero_add _) hstop hwidth (by rwa [Nat.zero_add]) hfuel
  refine ⟨seen', hexplore, fun h => ⟨(hnone h).1, fun n hn => (hnone h).2.mono ?_⟩⟩
  rintro b left ⟨hb, hle, -⟩
  exact ⟨hb, by omega, fun _ => by omega⟩

/-! ## Searching a text -/

/-- The match that a stretch is, with the text before it read up to some place. -/
def Match.ofStretch (pre : List Char) (found : List Char × List Char × List Char) : Match :=
  let (front, stretch, back) := found
  ⟨⟨Text.byteLength (pre ++ front), Text.byteLength (pre ++ front ++ stretch)⟩,
    .between (pre ++ front ++ stretch) back, []⟩

namespace Program

theorem searchFrom_stretch (pre : List Char) (hwidth : cs.length ≤ seen.width)
    (hseen : seen.Only (StretchTried marks.length cs.length 0)) (hfuel : 2 * cs.length + 2 ≤ fuel) :
    (Node.stretch s marks).program.searchFrom fuel seen pre.getLast? (Text.byteLength pre)
        cs.length cs = (firstStretch? s marks cs).map (Match.ofStretch pre) := by
  induction cs generalizing pre seen with
  | nil =>
    obtain ⟨seen', hexplore, -⟩ := explore_program s pre hwidth hseen hfuel
    rw [stretch?_nil, Thread.plain, Cursor.between] at hexplore
    rw [searchFrom, hexplore]
    rfl
  | cons c cs ih =>
    obtain ⟨seen', hexplore, hnone⟩ := explore_program s pre hwidth hseen hfuel
    rw [Thread.plain, Cursor.between] at hexplore
    rw [searchFrom, hexplore, firstStretch?]
    rcases hstretch : stretch? s marks (c :: cs) with _ | ⟨stretch, back⟩
    · -- the search goes on from the next place
      obtain ⟨hwidth', hseen'⟩ := hnone hstretch
      rw [List.length_cons] at hwidth hfuel hseen'
      have hnext := ih (pre ++ [c]) (by omega)
        (hseen' _ (Nat.lt_succ_self _)) (by omega)
      rw [List.getLast?_concat, Text.byteLength_append, Text.byteLength_cons,
        Text.byteLength_nil] at hnext
      simp only [Option.map_none, List.length_cons, Nat.add_sub_cancel, Option.map_map]
      refine hnext.trans (congrArg (Option.map · _) (funext fun found => ?_))
      simp [Match.ofStretch]
    · simp [Match.ofStretch, Thread.plain, Cursor.between]

/-- **A search finds the first stretch.** -/
theorem find?_stretch (s : CharSet) (marks : List CharSet) (pre cs : List Char) :
    (Node.stretch s marks).program.find? (.between pre cs) =
      (firstStretch? s marks cs).map (Match.ofStretch pre) := by
  refine searchFrom_stretch pre (Nat.le_refl _) (Seen.only_empty _) ?_
  have hle : 1 * (cs.length + 1) ≤
      ((Node.stretch s marks).program.code.size + 1) * (cs.length + 1) :=
    Nat.mul_le_mul_right _ (Nat.le_add_left _ _)
  simp only [fuel, Cursor.between, Nat.mul_assoc]
  omega

end Program

/-! ## Replacing stretches -/

variable {new : List Char} {replaced : List Char → List Char}

/-- What replaces a stretch that it comes to replaces the first one. -/
theorem replaced_eq (hnil : replaced [] = [])
    (hcons : ∀ c cs, replaced (c :: cs) = ((stretch? s marks (c :: cs)).map fun found =>
      new ++ replaced found.2).getD (c :: replaced cs)) (cs : List Char) :
    replaced cs = ((firstStretch? s marks cs).map fun found =>
      found.1 ++ new ++ replaced found.2.2).getD cs := by
  fun_induction firstStretch? s marks cs with
  | case1 => exact hnil
  | case2 c cs found hfound =>
    rw [hcons, hfound]
    rfl
  | case3 c cs hnone ih =>
    rw [hcons, hnone, Option.map_none, Option.getD_none, ih]
    rcases firstStretch? s marks cs with _ | found <;> rfl

/-- **To replace the matches is to replace each stretch** as it is come to. -/
theorem splice_stretches (hnil : replaced [] = [])
    (hcons : ∀ c cs, replaced (c :: cs) = ((stretch? s marks (c :: cs)).map fun found =>
      new ++ replaced found.2).getD (c :: replaced cs)) (cs : List Char) :
    Line.splice cs new 0 (((Node.stretch s marks).program.allMatches cs).map (·.span)) =
      replaced cs := by
  suffices h : ∀ n pre cs lastStop, cs.length < n →
      Line.splice cs new (Text.byteLength pre)
        (((Node.stretch s marks).program.findAll n lastStop (.between pre cs)).map (·.span)) =
        replaced cs from h _ [] cs none (Nat.lt_add_of_pos_right Nat.two_pos)
  intro n
  induction n with
  | zero => exact fun pre cs lastStop h => absurd h (Nat.not_lt_zero _)
  | succ n ih =>
    intro pre cs lastStop hn
    rw [replaced_eq hnil hcons cs, Program.findAll, Program.find?_stretch]
    rcases hfirst : firstStretch? s marks cs with _ | ⟨front, stretch, back⟩
    · rfl
    · obtain ⟨hne, rfl⟩ := of_firstStretch? hfirst
      have hpos : 0 < Text.byteLength stretch := Nat.pos_of_ne_zero fun h =>
        hne (Text.eq_nil_of_byteLength_eq_zero h)
      have hspan : (Match.ofStretch pre (front, stretch, back)).span =
          ⟨Text.byteLength pre + Text.byteLength front,
            Text.byteLength pre + Text.byteLength front + Text.byteLength stretch⟩ := by
        simp only [Match.ofStretch, Text.byteLength_append]
      have hshorter : back.length < n := by
        have hlength := List.length_pos_iff.mpr hne
        simp only [List.length_append] at hn
        omega
      have hrest := ih (pre ++ front ++ stretch) back
        (some (Match.ofStretch pre (front, stretch, back)).span.stop) hshorter
      rw [Text.byteLength_append, Text.byteLength_append] at hrest
      simp only [Option.map_some, Option.getD_some]
      rw [← hrest, ← Line.splice_cons, ← hspan, if_neg]
      · rfl
      · -- no match is empty, so each of them counts
        simp only [hspan, Bool.and_eq_true, decide_eq_true_eq]
        omega

end Pattern

end LogSift
