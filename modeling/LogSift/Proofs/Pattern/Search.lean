import Mathlib.Data.Finset.Prod
import LogSift.Proofs.Pattern.Runs
/-!
# A search finds a match where there is one

A search tries each address at each place once. What has been tried leads
only to what has been tried, too, or to what is still to be tried
(`Settled`). So a search that ends without a match has tried all that can
be reached, and its fuel is enough for that. It finds a match in a text just
if the node of its program matches between two places of it
(`Node.hasMatch_iff`).
-/


namespace LogSift

namespace Pattern

variable {code : Array Inst} {text : List Char} {seen seen' : Seen} {threads : List Thread}
  {c d : Cursor} {a left fuel n : Nat} {t u : Thread}

/-! ## What has been tried -/

namespace Seen

/-- Has an address been tried at a place? The number of characters after a
place tells which one it is. -/
def holds (s : Seen) (a left : Nat) : Bool :=
  ((s.rows.getD (s.width - left) #[]).getD (a / chunk) 0).testBit (a % chunk)

theorem mark_width (s : Seen) (t : Thread) : (s.mark t).width = s.width := rfl

theorem empty_holds (width a left : Nat) : (empty width).holds a left = false := by
  simp [empty, holds]

/-- Padding shows nowhere. -/
theorem getD_padded {α : Type} (fill : α) (xs : Array α) (n i : Nat) :
    (padded fill xs n).getD i fill = xs.getD i fill := by
  rw [padded]
  split
  · simp only [Array.getD_eq_getD_getElem?, Array.getElem?_append, Array.getElem?_replicate]
    split
    · rfl
    · rename_i hsize
      rw [Array.getElem?_eq_none (by omega)]
      split <;> rfl
  · rfl

theorem le_size_padded {α : Type} (fill : α) (xs : Array α) (n : Nat) :
    n ≤ (padded fill xs n).size := by
  rw [padded]
  split
  · simp
    omega
  · omega

/-- An entry is changed, whether it is there or not. -/
theorem getD_modify_padded {α : Type} (fill : α) (xs : Array α) (f : α → α) (i j : Nat) :
    ((padded fill xs (j + 1)).modify j f).getD i fill =
      if i = j then f (xs.getD j fill) else xs.getD i fill := by
  have hsize := le_size_padded fill xs (j + 1)
  rw [← getD_padded fill xs (j + 1) i, ← getD_padded fill xs (j + 1) j]
  simp only [Array.getD_eq_getD_getElem?, Array.getElem?_modify, @eq_comm _ j i]
  split
  · rename_i hij
    subst hij
    rw [Array.getElem?_eq_getElem (by omega)]
    rfl
  · rfl

/-- **To mark a pair is to hold it as well.** -/
theorem holds_mark : (seen.mark t).holds a left = true ↔
    seen.holds a left = true ∨ (a = t.address ∧ seen.width - left = seen.row t) := by
  have haddress : a = t.address ↔
      a / chunk = t.address / chunk ∧ a % chunk = t.address % chunk := by
    refine ⟨fun h => h ▸ ⟨rfl, rfl⟩, fun ⟨hdiv, hmod⟩ => ?_⟩
    rw [← Nat.div_add_mod a chunk, hdiv, hmod, Nat.div_add_mod]
  simp only [holds, mark, getD_modify_padded, haddress]
  by_cases hrow : seen.width - left = seen.row t
  · rw [if_pos hrow, getD_modify_padded, hrow]
    by_cases hdiv : a / chunk = t.address / chunk
    · rw [if_pos hdiv, hdiv, Nat.testBit_or, Nat.one_shiftLeft, Nat.testBit_two_pow,
        Bool.or_eq_true]
      simp [@eq_comm _ (a % chunk)]
    · simp only [hdiv, if_false, false_and, or_false]
  · simp only [hrow, if_false, and_false, or_false]

end Seen

/-! ## Ways -/

/-- A way on leads to a place of the text, and not back. -/
theorem Inst.on_of_mem_targets {i : Inst} {p : Nat × Cursor} (hc : c.On text)
    (hp : p ∈ i.targets a c) : p.2.On text ∧ p.2.left ≤ c.left := by
  cases i with
  | take s =>
    rcases hnext : c.next? with _ | ⟨ch, d⟩
    · simp [targets, ways, hnext] at hp
    · obtain ⟨hd, hleft⟩ := hc.next hnext
      simp only [targets, ways, hnext] at hp
      split at hp
      · obtain rfl := List.mem_singleton.mp hp
        exact ⟨hd, by simp only; omega⟩
      · cases hp
  | look l =>
    simp only [targets, ways] at hp
    split at hp
    · obtain rfl := List.mem_singleton.mp hp
      exact ⟨hc, Nat.le_refl _⟩
    · cases hp
  | save slot | jump target =>
    obtain rfl := List.mem_singleton.mp hp
    exact ⟨hc, Nat.le_refl _⟩
  | fork first second =>
    simp only [targets, ways, List.map_cons, List.map_nil, List.mem_cons, List.not_mem_nil,
      or_false] at hp
    rcases hp with rfl | rfl <;> exact ⟨hc, Nat.le_refl _⟩

/-- There are two of them at most. -/
theorem Inst.length_ways_le (i : Inst) (t : Thread) : (i.ways t).length ≤ 2 := by
  cases i with
  | take s =>
    simp only [ways]
    split
    · split <;> simp
    · simp
  | look l =>
    simp only [ways]
    split <;> simp
  | save slot | jump target | fork first second => simp [ways]

/-- The thread that goes a way. -/
theorem Inst.exists_mem_ways {i : Inst} {p : Nat × Cursor}
    (hp : p ∈ i.targets t.address t.place) : ∃ u ∈ i.ways t, (u.address, u.place) = p := by
  rw [← i.map_ways t] at hp
  exact List.mem_map.mp hp

theorem Inst.mem_targets {i : Inst} (hu : u ∈ i.ways t) :
    (u.address, u.place) ∈ i.targets t.address t.place := by
  rw [← i.map_ways t]
  exact List.mem_map_of_mem hu

/-! ## Soundness -/

/-- **What a search finds can be reached** from where it starts. -/
theorem exists_ends_of_explore (h : (explore code fuel seen threads).2 = some u) :
    ∃ t ∈ threads, ∃ n, Ends code n t.address t.place := by
  fun_induction explore code fuel seen threads with
  | case1 => cases h
  | case2 => cases h
  | case3 fuel seen t rest _ ih =>
    obtain ⟨v, hv, hends⟩ := ih h
    exact ⟨v, List.mem_cons_of_mem t hv, hends⟩
  | case4 fuel seen t rest _ hnone => exact ⟨t, List.mem_cons_self, 0, hnone⟩
  | case5 fuel seen t rest _ i hi ih =>
    obtain ⟨v, hv, n, hn⟩ := ih h
    rcases List.mem_append.mp hv with hv | hv
    · exact ⟨t, List.mem_cons_self, n + 1, i, hi, _, Inst.mem_targets hv, hn⟩
    · exact ⟨v, List.mem_cons_of_mem t hv, n, hn⟩

/-! ## Completeness -/

/-- **What has been tried is settled but for some threads**: it is no end, and
all that it leads to has been tried, or one of the threads is there. -/
def Settled (code : Array Inst) (text : List Char) (seen : Seen) (threads : List Thread) : Prop :=
  ∀ a c, c.On text → c.left ≤ seen.width → seen.holds a c.left = true →
    ∃ i, code[a]? = some i ∧ ∀ p ∈ i.targets a c,
      seen.holds p.1 p.2.left = true ∨ ∃ t ∈ threads, (t.address, t.place) = p

/-- With no threads left, no end is reached from it. -/
theorem Settled.not_ends (h : Settled code text seen []) (hc : c.On text)
    (hleft : c.left ≤ seen.width) (hholds : seen.holds a c.left = true) : ¬ Ends code n a c := by
  intro hn
  obtain ⟨i, hi, htargets⟩ := h a c hc hleft hholds
  induction n generalizing a c i with
  | zero => simp [Ends, hi] at hn
  | succ n ih =>
    obtain ⟨m, hm, p, hp, hends⟩ := (ends_iff hi).mp hn
    obtain rfl : n = m := Nat.succ.inj hm
    obtain ⟨hon, hle⟩ := Inst.on_of_mem_targets hc hp
    have hp' : seen.holds p.1 p.2.left = true := by simpa using htargets p hp
    obtain ⟨j, hj, htargets'⟩ := h p.1 p.2 hon (by omega) hp'
    exact ih hon (by omega) hp' hends j hj htargets'

/-- A thread that stands where something has been tried is not needed. -/
theorem Settled.skip (h : Settled code text seen (t :: threads)) (ht : seen.has t = true) :
    Settled code text seen threads := by
  intro a c hc hleft hholds
  obtain ⟨i, hi, htargets⟩ := h a c hc hleft hholds
  refine ⟨i, hi, fun p hp => ?_⟩
  rcases htargets p hp with hp | ⟨u, hu, rfl⟩
  · exact .inl hp
  · rcases List.mem_cons.mp hu with rfl | hu
    · exact .inl ht
    · exact .inr ⟨u, hu, rfl⟩

/-- **A thread that is tried is replaced by its ways.** -/
theorem Settled.mark {i : Inst} (h : Settled code text seen (t :: threads))
    (ht : t.place.On text) (hleft : t.place.left ≤ seen.width) (hi : code[t.address]? = some i) :
    Settled code text (seen.mark t) (i.ways t ++ threads) := by
  intro a c hc hc' hholds
  rw [Seen.mark_width] at hc'
  rcases Seen.holds_mark.mp hholds with hold | ⟨rfl, hrow⟩
  · obtain ⟨j, hj, htargets⟩ := h a c hc hc' hold
    refine ⟨j, hj, fun p hp => ?_⟩
    rcases htargets p hp with hp | ⟨u, hu, rfl⟩
    · exact .inl (Seen.holds_mark.mpr (.inl hp))
    · rcases List.mem_cons.mp hu with rfl | hu
      · exact .inl (Seen.holds_mark.mpr (.inr ⟨rfl, rfl⟩))
      · exact .inr ⟨u, List.mem_append_right _ hu, rfl⟩
  · have hsame : c.left = t.place.left := by
      simp only [Seen.row] at hrow
      omega
    obtain rfl := hc.eq_of_left ht hsame
    refine ⟨i, hi, fun p hp => .inr ?_⟩
    obtain ⟨u, hu, hup⟩ := Inst.exists_mem_ways hp
    exact ⟨u, List.mem_append_left _ hu, hup⟩

/-- The number of pairs that have not been tried. -/
def untried (size : Nat) (seen : Seen) : Nat :=
  ((Finset.range size ×ˢ Finset.range (seen.width + 1)).filter
    fun q => seen.holds q.1 q.2 = false).card

theorem untried_le (size : Nat) (seen : Seen) : untried size seen ≤ size * (seen.width + 1) := by
  refine (Finset.card_filter_le _ _).trans_eq ?_
  rw [Finset.card_product, Finset.card_range, Finset.card_range]

theorem untried_mark_lt {size : Nat} (haddress : t.address < size)
    (hleft : t.place.left ≤ seen.width) (ht : seen.has t = false) :
    untried size (seen.mark t) < untried size seen := by
  refine Finset.card_lt_card (Finset.ssubset_iff_of_subset ?_ |>.mpr ?_)
  · intro q hq
    simp only [Finset.mem_filter, Seen.mark_width, Bool.eq_false_iff, ne_eq,
      Seen.holds_mark] at hq ⊢
    exact ⟨hq.1, fun hold => hq.2 (.inl hold)⟩
  · refine ⟨(t.address, t.place.left), ?_, ?_⟩
    · simp only [Finset.mem_filter, Finset.mem_product, Finset.mem_range]
      exact ⟨⟨haddress, by omega⟩, ht⟩
    · simp only [Finset.mem_filter, Bool.eq_false_iff, ne_eq, Seen.holds_mark]
      exact fun h => h.2 (.inr ⟨trivial, rfl⟩)

/-- **A search that finds nothing has tried all that can be reached**, if its
fuel is enough for its threads and what they lead to. -/
theorem settled_of_explore (hthreads : ∀ t ∈ threads, t.place.On text ∧ t.place.left ≤ seen.width)
    (hsettled : Settled code text seen threads)
    (hfuel : threads.length + 2 * untried code.size seen ≤ fuel)
    (h : explore code fuel seen threads = (seen', none)) :
    Settled code text seen' [] ∧ seen'.width = seen.width ∧
      (∀ a left, seen.holds a left = true → seen'.holds a left = true) ∧
      ∀ t ∈ threads, seen'.has t = true := by
  fun_induction explore code fuel seen threads with
  | case1 seen threads =>
    obtain rfl : threads = [] := List.eq_nil_of_length_eq_zero (by omega)
    obtain rfl := (Prod.mk.inj h).1
    exact ⟨hsettled, rfl, fun _ _ => id, by simp⟩
  | case2 fuel seen =>
    obtain rfl := (Prod.mk.inj h).1
    exact ⟨hsettled, rfl, fun _ _ => id, by simp⟩
  | case3 fuel seen t rest ht ih =>
    rw [List.length_cons] at hfuel
    obtain ⟨hresult, hwidth, hmono, hrest⟩ :=
      ih (fun u hu => hthreads u (List.mem_cons_of_mem t hu)) (hsettled.skip ht) (by omega) h
    exact ⟨hresult, hwidth, hmono, List.forall_mem_cons.mpr ⟨hmono _ _ ht, hrest⟩⟩
  | case4 => cases (Prod.mk.inj h).2
  | case5 fuel seen t rest ht i hi ih =>
    obtain ⟨hon, hleft⟩ := hthreads t List.mem_cons_self
    have hways := i.length_ways_le t
    have haddress : t.address < code.size := (Array.getElem?_eq_some_iff.mp hi).1
    have huntried := untried_mark_lt haddress hleft (Bool.eq_false_iff.mpr ht)
    have hthreads' : ∀ u ∈ i.ways t ++ rest,
        u.place.On text ∧ u.place.left ≤ (seen.mark t).width := by
      intro u hu
      rcases List.mem_append.mp hu with hu | hu
      · obtain ⟨hon', hle⟩ := Inst.on_of_mem_targets hon (Inst.mem_targets hu)
        exact ⟨hon', Nat.le_trans hle hleft⟩
      · exact hthreads u (List.mem_cons_of_mem t hu)
    rw [List.length_cons] at hfuel
    obtain ⟨hresult, hwidth, hmono, hrest⟩ := ih hthreads' (hsettled.mark hon hleft hi)
      (by rw [List.length_append]; omega) h
    refine ⟨hresult, hwidth, fun a left hold => hmono a left (Seen.holds_mark.mpr (.inl hold)), ?_⟩
    refine List.forall_mem_cons.mpr ⟨hmono _ _ (Seen.holds_mark.mpr (.inr ⟨rfl, rfl⟩)), ?_⟩
    exact fun u hu => hrest u (List.mem_append_right _ hu)

/-! ## Searches -/

namespace Program

variable {p : Program}

/-- Where nothing is found from a place, no end is reached from there. -/
theorem not_ends_of_explore (hc : c.On text) (hleft : c.left ≤ seen.width)
    (hsettled : Settled p.code text seen [])
    (hfuel : 2 * (p.code.size * (seen.width + 1)) + 1 ≤ fuel)
    (h : explore p.code fuel seen [⟨0, c, []⟩] = (seen', none)) :
    (∀ n, ¬ Ends p.code n 0 c) ∧ Settled p.code text seen' [] ∧ seen'.width = seen.width := by
  have huntried := untried_le p.code.size seen
  have hstart : Settled p.code text seen [⟨0, c, []⟩] := by
    intro a d hd hd' hold
    obtain ⟨i, hi, htargets⟩ := hsettled a d hd hd' hold
    exact ⟨i, hi, fun q hq => .inl (by simpa using htargets q hq)⟩
  obtain ⟨hresult, hwidth, -, htried⟩ := settled_of_explore
    (List.forall_mem_singleton.mpr ⟨hc, hleft⟩) hstart (by rw [List.length_singleton]; omega) h
  refine ⟨fun n => hresult.not_ends hc (hwidth ▸ hleft) ?_, hresult, hwidth⟩
  exact htried _ List.mem_cons_self

/-- **A search finds a match iff an end is reached** from one of its places. -/
theorem searchFrom_isSome_iff {before : Option Char} {offset : Nat} {rest : List Char}
    (hc : (Cursor.mk before rest offset left).On text) (hleft : left ≤ seen.width)
    (hsettled : Settled p.code text seen [])
    (hfuel : 2 * (p.code.size * (seen.width + 1)) + 1 ≤ fuel) :
    (p.searchFrom fuel seen before offset left rest).isSome = true ↔
      ∃ c, c.On text ∧ c.left ≤ left ∧ ∃ n, Ends p.code n 0 c := by
  induction rest generalizing seen before offset left with
  | nil =>
    obtain rfl : left = 0 := hc.left_eq
    rw [searchFrom]
    rcases hexplore : explore p.code fuel seen [⟨0, ⟨before, [], offset, 0⟩, []⟩]
      with ⟨seen', _ | t⟩
    · obtain ⟨hnot, -, -⟩ := not_ends_of_explore hc hleft hsettled hfuel hexplore
      simp only [Option.isSome_none, Bool.false_eq_true, false_iff]
      rintro ⟨c, hon, hle, n, hn⟩
      obtain rfl := hon.eq_of_left hc (Nat.eq_zero_of_le_zero hle)
      exact hnot n hn
    · simp only [Option.isSome_some, true_iff]
      obtain ⟨u, hu, hends⟩ := exists_ends_of_explore (congrArg Prod.snd hexplore)
      obtain rfl := List.mem_singleton.mp hu
      exact ⟨_, hc, Nat.le_refl _, hends⟩
  | cons ch rest ih =>
    obtain rfl : left = rest.length + 1 := hc.left_eq
    rw [searchFrom]
    rcases hexplore : explore p.code fuel seen [⟨0, ⟨before, ch :: rest, offset, rest.length + 1⟩, []⟩]
      with ⟨seen', _ | t⟩
    · obtain ⟨hnot, hsettled', hwidth⟩ := not_ends_of_explore hc hleft hsettled hfuel hexplore
      have hle : rest.length ≤ seen'.width := by omega
      refine (ih (hc.next rfl).1 hle hsettled' (by rwa [hwidth])).trans ?_
      constructor
      · rintro ⟨c, hon, hle, hends⟩
        exact ⟨c, hon, Nat.le_succ_of_le hle, hends⟩
      · rintro ⟨c, hon, hle, n, hn⟩
        refine ⟨c, hon, Nat.le_of_not_lt fun hlt => ?_, n, hn⟩
        obtain rfl := hon.eq_of_left hc (Nat.le_antisymm hle hlt)
        exact hnot n hn
    · simp only [Option.isSome_some, true_iff]
      obtain ⟨u, hu, hends⟩ := exists_ends_of_explore (congrArg Prod.snd hexplore)
      obtain rfl := List.mem_singleton.mp hu
      exact ⟨_, hc, Nat.le_refl _, hends⟩

/-- **A text holds a match iff an end is reached** from one of its places. -/
theorem hasMatch_iff : p.hasMatch text = true ↔ ∃ c, c.On text ∧ ∃ n, Ends p.code n 0 c := by
  have hnone : Settled p.code text (Seen.empty text.length) [] := by
    intro a c _ _ hold
    rw [Seen.empty_holds] at hold
    cases hold
  have hfuel : 2 * (p.code.size * (text.length + 1)) + 1 ≤ p.fuel text.length := by
    have hle := Nat.mul_le_mul_right (text.length + 1) (Nat.le_add_right p.code.size 1)
    rw [fuel, Nat.mul_assoc]
    omega
  rw [hasMatch, find?]
  refine (searchFrom_isSome_iff (Cursor.on_ofText text) (Nat.le_refl _) hnone hfuel).trans ?_
  refine exists_congr fun c => and_congr_right fun hc => and_iff_right ?_
  obtain ⟨pre, rest, rfl, rfl⟩ := hc
  simp [Cursor.between]

end Program

/-- **A text holds a match of a node's program iff the node matches** between
two places of the text. -/
theorem Node.hasMatch_iff (node : Node) (text : List Char) :
    node.program.hasMatch text = true ↔ ∃ c d, c.On text ∧ node.Matches c d := by
  rw [Program.hasMatch_iff]
  refine exists_congr fun c => ?_
  rw [node.exists_ends_iff, exists_and_left]

end Pattern

end LogSift
