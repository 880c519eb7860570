import LogSift.Pattern
import LogSift.Proofs.Pattern.Bounds
import LogSift.Proofs.Pattern.OnwardRun
import LogSift.Proofs.Pattern.Search
/-!
# Matches of a whole text

A source is read a second time between anchors, in a group of its own. What
is read there is what was read before, with the anchors around it
(`read_wrapped`), unless the source ends in a comment: that takes the closing
of the group in, and so the source is refused. With the anchors around it a
source matches where the whole text does (`hasMatch_anchored`).
-/


namespace LogSift

namespace Pattern

open Reader (State Level Closing)

variable {source text : List Char} {e : Expr} {n : Node}

/-! ## Anchors -/

/-- What the wrapping adds behind a source. -/
def closing : List Char := [')', '$']

theorem closing_closing : Closing closing := ⟨rfl, by decide, by decide⟩

/-- **A comment at the end of the source takes in what would close a group**:
the source is a pattern, and still one with that behind it. -/
def EndsInComment (source : List Char) : Prop :=
  (∃ e, Expr.read source = .ok e) ∧ ∃ e, Expr.read (source ++ closing) = .ok e

/-- A pattern in a group of its own between anchors. -/
def Expr.anchored (e : Expr) : Expr :=
  .seq (.atom (.assertion .startLine)) (.seq (.group [] e) (.atom (.assertion .endLine)))

/-- The meaning of a pattern between anchors. -/
def Node.anchored (n : Node) : Node :=
  ((Node.look .textStart).join (n.join (.look .textEnd))).closed

theorem Expr.depth_anchored (e : Expr) : e.anchored.depth .alone = e.depth .alone + 2 := by
  simp [anchored, depth]
  omega

/-! ## Reading between anchors -/

/-- The group of the wrapping. -/
def anchorLevel : Level := ⟨.plain [], [], [.atom (.assertion .startLine)], false⟩

/-- Behind the opening, the source is read as if nothing stood before it. -/
theorem run_wrapped (k : Nat) (source : List Char) :
    State.start.run (k + 2) (wrapped source) =
      (State.start.within [anchorLevel]).run k (source ++ closing) := by
  let anchor : State := { State.start with items := [.atom (.assertion .startLine)] }
  have hanchor : State.start.step '^' ('(' :: '?' :: ':' :: (source ++ closing)) =
      .ok (anchor, '(' :: '?' :: ':' :: (source ++ closing)) := rfl
  have hgroup : anchor.step '(' ('?' :: ':' :: (source ++ closing)) =
      .ok (State.start.within [anchorLevel], source ++ closing) := rfl
  have hwrapped : wrapped source = '^' :: '(' :: '?' :: ':' :: (source ++ closing) := rfl
  rw [hwrapped, State.run_of_skip_cons rfl hanchor, State.run_of_skip_cons rfl hgroup]

theorem skip_closing_eq {v : Bool} : Reader.skip v closing = ')' :: ['$'] :=
  Reader.skip_closing closing_closing

/-- The tail closes the group and reads the other anchor. -/
theorem run_closing {st : State} {k : Nat} (houter : st.outer = []) (hk : closing.length < k) :
    (st.within [anchorLevel]).run k closing =
      .ok { st with
        outer := [], branches := [], verbose := false
        items := [.atom (.assertion .endLine), .group [] st.expr,
          .atom (.assertion .startLine)] } := by
  obtain ⟨k, rfl⟩ : ∃ k', k = k' + 2 := Nat.exists_eq_add_of_le' (Nat.le_of_lt hk)
  let grouped : State := { st with
    outer := [], branches := [], verbose := false
    items := [.group [] st.expr, .atom (.assertion .startLine)] }
  have hclose : (st.within [anchorLevel]).step ')' ['$'] = .ok (grouped, ['$']) := by
    have hgroup : (st.within [anchorLevel]).closeGroup = .ok grouped := by
      rw [State.closeGroup, State.outer_within houter]
      rfl
    exact bind_eq_ok_iff.mpr ⟨_, hgroup, rfl⟩
  have hanchor : grouped.step '$' [] = .ok ({ grouped with
      items := .atom (.assertion .endLine) :: grouped.items }, []) := rfl
  rw [State.run_of_skip_cons skip_closing_eq hclose,
    State.run_of_skip_cons rfl hanchor, State.run_nil]

/-- With no group around it, there is nothing to close. -/
theorem run_closing_unopened {st : State} {k : Nat} (houter : st.outer = [])
    (hk : closing.length < k) :
    (st.within []).run k closing = .error .groupUnopened := by
  obtain ⟨k, rfl⟩ := Nat.exists_eq_succ_of_ne_zero (Nat.ne_zero_of_lt hk)
  have hclose : (st.within []).step ')' ['$'] = .error .groupUnopened := by
    have hgroup : (st.within []).closeGroup = .error .groupUnopened := by
      rw [State.closeGroup, State.outer_within houter]
    rw [State.step, hgroup]
    rfl
  rw [State.run, skip_closing_eq]
  simp only [hclose, bind, Except.bind]

/-- What a run has read, if all groups are closed and the nesting is not too deep. -/
def finish (st : State) : Except Fault Expr :=
  if st.outer.isEmpty then
    if st.expr.depth .alone ≤ nestLimit then return st.expr else .error .nestedTooDeep
  else .error .groupUnclosed

theorem read_eq (source : List Char) :
    Expr.read source = State.start.run (source.length + 1) source >>= finish := rfl

/-- A source that is read leaves no group open. -/
theorem run_of_read (he : Expr.read source = .ok e) :
    ∃ st : State, State.start.run (source.length + 1) source = .ok st ∧ st.outer = [] ∧
      st.expr = e ∧ e.depth .alone ≤ nestLimit := by
  rw [read_eq] at he
  obtain ⟨st, hrun, he⟩ := bind_eq_ok_iff.mp he
  unfold finish at he
  split at he
  · rename_i houter
    split at he
    · rename_i hdepth
      obtain rfl := Except.ok.inj he
      exact ⟨st, hrun, List.isEmpty_iff.mp houter, rfl, hdepth⟩
    · cases he
  · cases he

/-- **Between anchors a source is read as it is read alone**, unless it ends
in a comment. -/
theorem read_wrapped (he : Expr.read source = .ok e) :
    ¬ EndsInComment source ∧ Expr.read (wrapped source) =
        (if e.anchored.depth .alone ≤ nestLimit then .ok e.anchored else .error .nestedTooDeep) ∨
      (('#' ∈ source ∧ 'x' ∈ source) ∧ EndsInComment source) ∧
        Expr.read (wrapped source) = .error .groupUnclosed := by
  obtain ⟨st, hrun, houter, rfl, hdepth⟩ := run_of_read he
  have hlength : (wrapped source).length + 1 = (source ++ closing).length + 3 + 2 := by
    simp [wrapped, closing]
  have hwrapped : Expr.read (wrapped source) = (State.start.within [anchorLevel]).run
      ((source ++ closing).length + 3) (source ++ closing) >>= finish := by
    rw [read_eq, hlength, run_wrapped]
  have halone : Expr.read (source ++ closing) = (State.start.within []).run
      ((source ++ closing).length + 1) (source ++ closing) >>= finish := rfl
  have hlt : (source ++ closing).length < (source ++ closing).length + 3 := by omega
  rcases State.run_within closing_closing (Nat.lt_succ_self _) hrun with hgo | hin
  · refine .inl ⟨?_, ?_⟩
    · rintro ⟨-, e', he'⟩
      obtain ⟨k, hk, hrun'⟩ := hgo [] _ (Nat.lt_succ_self _)
      rw [halone, hrun', run_closing_unopened houter hk] at he'
      cases he'
    · obtain ⟨k, hk, hrun'⟩ := hgo [anchorLevel] _ hlt
      rw [hwrapped, hrun', run_closing houter hk]
      rfl
  · refine .inr ⟨⟨⟨hin.hash, hin.flag State.terse_start⟩, ⟨_, he⟩, st.expr, ?_⟩, ?_⟩
    · have hopen : (st.within []).outer.isEmpty = true :=
        List.isEmpty_iff.mpr (State.outer_within houter)
      rw [halone, hin.run [] _ (Nat.lt_succ_self _)]
      exact (if_pos hopen).trans (if_pos hdepth)
    · have hopen : ¬ (st.within [anchorLevel]).outer.isEmpty = true := by
        rw [State.outer_within houter]
        exact Bool.false_ne_true
      rw [hwrapped, hin.run [anchorLevel] _ hlt]
      exact if_neg hopen

/-- A comment takes a hash, and the flag of verbose mode. -/
theorem spelled_of_endsInComment (h : EndsInComment source) : '#' ∈ source ∧ 'x' ∈ source := by
  obtain ⟨e, he⟩ := h.1
  rcases read_wrapped he with ⟨hnot, -⟩ | ⟨⟨hspelled, -⟩, -⟩
  · exact absurd h hnot
  · exact hspelled

/-! ## Compiling between anchors -/

/-- The meaning between anchors. -/
theorem meaning_anchored {n₀ : Node} {m : Mode} (hn : e.meaning Mode.initial = .ok (n₀, m)) :
    ∃ w, e.anchored.meaning Mode.initial = .ok (w, Mode.initial) ∧
      w.closed = n₀.closed.anchored := by
  refine ⟨(Node.look .textStart).join (n₀.closed.join (.look .textEnd)), ?_, rfl⟩
  have hgroup : (Expr.group [] e).meaning Mode.initial = .ok (n₀.closed, Mode.initial) :=
    bind_eq_ok_iff.mpr ⟨_, hn, rfl⟩
  have hrest : (Expr.seq (.group [] e) (.atom (.assertion .endLine))).meaning Mode.initial =
      .ok (n₀.closed.join (.look .textEnd), Mode.initial) :=
    bind_eq_ok_iff.mpr ⟨_, hgroup, rfl⟩
  exact bind_eq_ok_iff.mpr ⟨_, rfl, bind_eq_ok_iff.mpr ⟨_, hrest, rfl⟩⟩

/-- What it takes for a source to have a meaning. -/
theorem node_eq_ok_iff : node source = .ok n ↔ ∃ e n₀ m, Expr.read source = .ok e ∧
    e.meaning Mode.initial = .ok (n₀, m) ∧ n₀.closed.fits = true ∧ n₀.closed = n := by
  constructor
  · intro h
    obtain ⟨e, he, h⟩ := bind_eq_ok_iff.mp h
    obtain ⟨⟨n₀, m⟩, hn, h⟩ := bind_eq_ok_iff.mp h
    simp only at h
    split at h
    · rename_i hfits
      exact ⟨e, n₀, m, he, hn, hfits, Except.ok.inj h⟩
    · cases h
  · rintro ⟨e, n₀, m, he, hn, hfits, rfl⟩
    exact bind_eq_ok_iff.mpr ⟨e, he, bind_eq_ok_iff.mpr ⟨_, hn, if_pos hfits⟩⟩

/-- **What it takes for a source to have a meaning between anchors**, too. -/
theorem node_wrapped_eq_ok_iff {w : Node} (he : Expr.read source = .ok e)
    (hn : node source = .ok n) :
    node (wrapped source) = .ok w ↔ (¬ EndsInComment source ∧
      e.depth .alone + 2 ≤ nestLimit ∧ n.anchored.fits = true) ∧ n.anchored = w := by
  obtain ⟨e', n₀, m, he', hmeaning, hfits, rfl⟩ := node_eq_ok_iff.mp hn
  obtain rfl := Except.ok.inj (he.symm.trans he')
  obtain ⟨w', hw', hclosed⟩ := meaning_anchored hmeaning
  rw [node_eq_ok_iff, ← hclosed, ← Expr.depth_anchored]
  rcases read_wrapped he with ⟨hnot, hread⟩ | ⟨⟨-, hcomment⟩, hread⟩
  · rw [hread]
    constructor
    · rintro ⟨e', n₁, m', h, hn₁, hfits', rfl⟩
      split at h
      · rename_i hdepth
        obtain rfl := Except.ok.inj h
        obtain ⟨rfl, -⟩ := Prod.mk.inj (Except.ok.inj (hw'.symm.trans hn₁))
        exact ⟨⟨hnot, hdepth, hfits'⟩, rfl⟩
      · cases h
    · rintro ⟨⟨-, hdepth, hfits'⟩, rfl⟩
      exact ⟨e.anchored, w', Mode.initial, if_pos hdepth, hw', hfits', rfl⟩
  · rw [hread]
    constructor
    · rintro ⟨e', n₁, m', h, -⟩
      cases h
    · rintro ⟨⟨hnot, -⟩, -⟩
      exact absurd hcomment hnot

/-- **Between anchors a node matches where the whole text does.** -/
theorem hasMatch_anchored (n : Node) (text : List Char) :
    n.anchored.program.hasMatch text = true ↔
      ∃ d, n.Matches (Cursor.ofText text) d ∧ d.rest = [] := by
  rw [Node.hasMatch_iff]
  simp only [Node.anchored, Node.matches_closed, Node.matches_join, Node.Matches]
  constructor
  · rintro ⟨c, d, hc, c', ⟨hstart, rfl⟩, d', hd, hend, rfl⟩
    obtain rfl := hc.eq_ofText (Option.isNone_iff_eq_none.mp hstart)
    exact ⟨d', hd, List.head?_eq_none_iff.mp (Option.isNone_iff_eq_none.mp hend)⟩
  · rintro ⟨d, hd, hrest⟩
    refine ⟨Cursor.ofText text, d, Cursor.on_ofText text, _, ⟨rfl, rfl⟩, d, hd, ?_, rfl⟩
    rw [hrest]
    rfl

/-! ## Accepted sources -/

/-- The pattern matches from the start of the text to its end. -/
def MatchesWhole (source text : List Char) : Prop :=
  ∃ e, Expr.read source = .ok e ∧ ∃ d, e.Matches Mode.initial (Cursor.ofText text) d ∧ d.rest = []

/-- With the anchors around it, the pattern is neither nested too deep nor too large. -/
def LeavesRoom (source : List Char) : Prop :=
  ∃ e n, Expr.read source = .ok e ∧ node source = .ok n ∧
    e.depth .alone + 2 ≤ nestLimit ∧ n.anchored.fits = true

/-- The node of a source matches what is written. -/
theorem matches_node_iff {c d : Cursor} (he : Expr.read source = .ok e) (hn : node source = .ok n) :
    n.Matches c d ↔ e.Matches Mode.initial c d := by
  obtain ⟨e', n₀, m, he', hmeaning, -, rfl⟩ := node_eq_ok_iff.mp hn
  obtain rfl := Except.ok.inj (he.symm.trans he')
  obtain ⟨-, -, hmatches⟩ := Expr.matches_meaning (Expr.ordered_of_read he) hmeaning
  exact (Node.matches_closed n₀).trans (hmatches c d)

theorem compile_eq_ok_iff {p : Program} :
    compile source = .ok p ↔ ∃ n, node source = .ok n ∧ n.program = p := by
  constructor
  · intro h
    obtain ⟨n, hn, h⟩ := bind_eq_ok_iff.mp h
    exact ⟨n, hn, Except.ok.inj h⟩
  · rintro ⟨n, hn, rfl⟩
    exact bind_eq_ok_iff.mpr ⟨n, hn, rfl⟩

theorem ofSource_eq_ok_iff {source : String} {p : Pattern} :
    ofSource source = .ok p ↔ ∃ finder wholeFinder, compile source.toList = .ok finder ∧
      compile (wrapped source.toList) = .ok wholeFinder ∧ ⟨source, finder, wholeFinder⟩ = p := by
  constructor
  · intro h
    simp only [ofSource] at h
    split at h
    · cases h
    · rename_i finder hfinder
      split at h
      · cases h
      · rename_i wholeFinder hwhole
        exact ⟨finder, wholeFinder, hfinder, hwhole, Except.ok.inj h⟩
  · rintro ⟨finder, wholeFinder, hfinder, hwhole, rfl⟩
    simp only [ofSource, hfinder, hwhole]

/-- What it takes for a source to be accepted, and what then finds matches of a whole text. -/
theorem ofSource_eq_ok_iff_node {source : String} {p : Pattern} :
    ofSource source = .ok p ↔ ∃ e n, Expr.read source.toList = .ok e ∧
      node source.toList = .ok n ∧
      (¬ EndsInComment source.toList ∧ e.depth .alone + 2 ≤ nestLimit ∧ n.anchored.fits = true) ∧
      ⟨source, n.program, n.anchored.program⟩ = p := by
  rw [ofSource_eq_ok_iff]
  constructor
  · rintro ⟨_, _, hfinder, hwhole, rfl⟩
    obtain ⟨n, hn, rfl⟩ := compile_eq_ok_iff.mp hfinder
    obtain ⟨w, hw, rfl⟩ := compile_eq_ok_iff.mp hwhole
    obtain ⟨e, n₀, m, he, -⟩ := node_eq_ok_iff.mp hn
    obtain ⟨haccepted, rfl⟩ := (node_wrapped_eq_ok_iff he hn).mp hw
    exact ⟨e, n, he, hn, haccepted, rfl⟩
  · rintro ⟨e, n, he, hn, haccepted, rfl⟩
    exact ⟨_, _, compile_eq_ok_iff.mpr ⟨n, hn, rfl⟩,
      compile_eq_ok_iff.mpr ⟨_, (node_wrapped_eq_ok_iff he hn).mpr ⟨haccepted, rfl⟩, rfl⟩, rfl⟩

/-- **A source is accepted iff it compiles, does not end in a comment and
leaves room for the anchors**, and a text is a match of an accepted one iff
the pattern can match all of it. -/
theorem accepted_iff_and_whole_iff (source : String) :
    ((∃ p, ofSource source = .ok p) ↔ (∃ finder, compile source.toList = .ok finder) ∧
      ¬ EndsInComment source.toList ∧ LeavesRoom source.toList) ∧
    (EndsInComment source.toList → '#' ∈ source.toList ∧ 'x' ∈ source.toList) ∧
    ∀ p, ofSource source = .ok p →
      ∀ text, p.hasWholeMatch text = true ↔ MatchesWhole source.toList text := by
  refine ⟨⟨?_, ?_⟩, spelled_of_endsInComment, ?_⟩
  · rintro ⟨p, hp⟩
    obtain ⟨e, n, he, hn, ⟨hcomment, hdepth, hfits⟩, -⟩ := ofSource_eq_ok_iff_node.mp hp
    exact ⟨⟨_, compile_eq_ok_iff.mpr ⟨n, hn, rfl⟩⟩, hcomment, e, n, he, hn, hdepth, hfits⟩
  · rintro ⟨-, hcomment, e, n, he, hn, hroom⟩
    exact ⟨_, ofSource_eq_ok_iff_node.mpr ⟨e, n, he, hn, ⟨hcomment, hroom⟩, rfl⟩⟩
  · rintro p hp text
    obtain ⟨e, n, he, hn, -, rfl⟩ := ofSource_eq_ok_iff_node.mp hp
    have hmatch : ∀ e', Expr.read source.toList = .ok e' → e = e' := fun e' he' =>
      Except.ok.inj (he.symm.trans he')
    rw [hasWholeMatch, hasMatch_anchored]
    constructor
    · rintro ⟨d, hd, hrest⟩
      exact ⟨e, he, d, (matches_node_iff he hn).mp hd, hrest⟩
    · rintro ⟨e', he', d, hd, hrest⟩
      obtain rfl := hmatch e' he'
      exact ⟨d, (matches_node_iff he hn).mpr hd, hrest⟩

/-- Either branch of a pattern has to match the whole text. -/
theorem accepted_iff_and_whole_iff_of_branches :
    ¬ EndsInComment "a|bc".toList ∧ ∃ p, ofSource "a|bc" = .ok p ∧
      (p.hasWholeMatch ['b', 'c'] = true ∧ MatchesWhole "a|bc".toList ['b', 'c']) ∧
      p.hasWholeMatch ['a', 'c'] = false ∧ ¬ MatchesWhole "a|bc".toList ['a', 'c'] := by
  obtain ⟨-, hcomment, hwhole⟩ := accepted_iff_and_whole_iff "a|bc"
  have hrun : (ofSource "a|bc").toOption.any (fun p =>
      p.hasWholeMatch ['b', 'c'] && !p.hasWholeMatch ['a', 'c']) = true := by decide +kernel
  rcases hp : ofSource "a|bc" with f | p
  · rw [hp] at hrun
    cases hrun
  · rw [hp] at hrun
    obtain ⟨hbc, hac⟩ := (Bool.and_eq_true _ _).mp hrun
    rw [Bool.not_eq_true'] at hac
    refine ⟨fun h => absurd (hcomment h).1 (by decide), p, rfl,
      ⟨hbc, (hwhole p hp _).mp hbc⟩, hac, fun h => ?_⟩
    rw [(hwhole p hp _).mpr h] at hac
    cases hac

/-- **Not every source that compiles is accepted**: this one ends in a comment. -/
theorem not_accepted_of_compiled : ¬ ∀ source : String,
    (∃ finder, compile source.toList = .ok finder) → ∃ p, ofSource source = .ok p := by
  intro h
  have hcompiled : (compile "(?x)foo # c".toList).toOption.isSome = true := by decide +kernel
  have hrefused : (ofSource "(?x)foo # c").toOption.isSome = false := by decide +kernel
  obtain ⟨p, hp⟩ := h "(?x)foo # c" (by
    rcases hfinder : compile "(?x)foo # c".toList with f | finder
    · rw [hfinder] at hcompiled
      cases hcompiled
    · exact ⟨finder, rfl⟩)
  rw [hp] at hrefused
  cases hrefused

end Pattern

end LogSift
