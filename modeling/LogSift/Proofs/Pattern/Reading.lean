import LogSift.Proofs.Pattern.Opened
/-!
# How the groups of a source are open

The reader goes through a source unit by unit. A unit opens a group, closes
one or leaves the groups as they are (`State.Nests`). A `Reading` is the
reader on its way: it knows what stands before each group that is open. It
stops where a run ends or fails (`Reading.run_stop`).
-/


namespace LogSift

namespace Pattern

namespace Reader

variable {cs rest left source : List Char} {c : Char} {n : Nat}

/-! ## Steps -/

/-- What has been read of a text, by what is left of it. -/
def taken (cs left : List Char) : List Char := cs.take (cs.length - left.length)

theorem taken_append (h : left <:+ cs) : taken cs left ++ left = cs :=
  List.suffix_iff_eq_append.mp h

theorem taken_cons (h : left <:+ rest) (c : Char) :
    taken (c :: rest) left = c :: taken rest left := by
  rw [taken, List.length_cons, Nat.succ_sub h.length_le, List.take_succ_cons, taken]

namespace State

variable {st st' : State}

/-- **How a unit nests**: it opens a group, it closes one, or the groups stay as they are. -/
inductive Nests (st : State) (rest left : List Char) (st' : State) : Char → Prop
  | opens {level : Level} (houter : st'.outer = level :: st.outer) : Nests st rest left st' '('
  | closes {level : Level} (houter : st.outer = level :: st'.outer) (hleft : left = rest) :
      Nests st rest left st' ')'
  | keeps {c : Char} (houter : st'.outer = st.outer) : Nests st rest left st' c

theorem nests_enterNamed (hst : st.enterNamed cs = .ok (st', left)) :
    st.Nests rest left st' '(' := by
  obtain ⟨⟨name, left'⟩, -, hst⟩ := bind_eq_ok_iff.mp hst
  simp only at hst
  split at hst
  · cases hst
  · split at hst
    · cases hst
    · obtain ⟨rfl, -⟩ := Prod.mk.inj (Except.ok.inj hst)
      exact .opens rfl

theorem nests_openGroup (hst : st.openGroup rest = .ok (st', left)) :
    st.Nests rest left st' '(' := by
  unfold openGroup at hst
  simp only at hst
  split at hst
  · cases hst
  · split at hst
    · exact nests_enterNamed hst
    · split at hst
      · exact nests_enterNamed hst
      · split at hst
        · split at hst
          · cases hst
          · obtain ⟨⟨change, closer, left'⟩, -, hst⟩ := bind_eq_ok_iff.mp hst
            simp only at hst
            split at hst
            · split at hst
              · cases hst
              · obtain ⟨rfl, -⟩ := Prod.mk.inj (Except.ok.inj hst)
                exact .keeps rfl
            · obtain ⟨rfl, -⟩ := Prod.mk.inj (Except.ok.inj hst)
              exact .opens rfl
        · obtain ⟨rfl, -⟩ := Prod.mk.inj (Except.ok.inj hst)
          exact .opens rfl

theorem exists_outer_of_closeGroup (hst : st.closeGroup = .ok st') :
    ∃ level, st.outer = level :: st'.outer := by
  rw [closeGroup] at hst
  split at hst
  · cases hst
  · rename_i level outer houter
    obtain rfl := Except.ok.inj hst
    exact ⟨level, houter⟩

theorem outer_of_repeatLast {least : Nat} {most : Option Nat} {greedy : Bool}
    (hst : st.repeatLast least most greedy = .ok st') : st'.outer = st.outer := by
  rw [repeatLast] at hst
  split at hst
  · cases hst
  · split at hst
    · cases hst
    · obtain rfl := Except.ok.inj hst
      rfl

theorem outer_of_repeatSign {least : Nat} {most : Option Nat}
    (hst : st.repeatSign least most cs = .ok (st', left)) : st'.outer = st.outer := by
  unfold repeatSign at hst
  split at hst
  all_goals
    obtain ⟨st'', hst'', hst⟩ := bind_eq_ok_iff.mp hst
    obtain ⟨rfl, -⟩ := Prod.mk.inj (Except.ok.inj hst)
    exact outer_of_repeatLast hst''

theorem outer_of_repeatCounted (hst : st.repeatCounted cs = .ok (st', left)) :
    st'.outer = st.outer := by
  unfold repeatCounted at hst
  split at hst
  · cases hst
  · split at hst
    · cases hst
    · split at hst
      · cases hst
      · obtain ⟨⟨⟨least, most⟩, left'⟩, -, hst⟩ := bind_eq_ok_iff.mp hst
        simp only at hst
        split at hst
        · split at hst
          · cases hst
          · obtain ⟨st'', hst'', hst⟩ := bind_eq_ok_iff.mp hst
            obtain ⟨rfl, -⟩ := Prod.mk.inj (Except.ok.inj hst)
            exact outer_of_repeatLast hst''
        · cases hst

theorem nests_step (hst : st.step c rest = .ok (st', left)) : st.Nests rest left st' c := by
  unfold step at hst
  split at hst
  · exact nests_openGroup hst
  · obtain ⟨st'', hst'', hst⟩ := bind_eq_ok_iff.mp hst
    obtain ⟨rfl, rfl⟩ := Prod.mk.inj (Except.ok.inj hst)
    obtain ⟨level, houter⟩ := exists_outer_of_closeGroup hst''
    exact .closes houter rfl
  · obtain ⟨rfl, -⟩ := Prod.mk.inj (Except.ok.inj hst)
    exact .keeps rfl
  · obtain ⟨⟨e, left'⟩, -, hst⟩ := bind_eq_ok_iff.mp hst
    obtain ⟨rfl, -⟩ := Prod.mk.inj (Except.ok.inj hst)
    exact .keeps rfl
  · exact .keeps (outer_of_repeatSign hst)
  · exact .keeps (outer_of_repeatSign hst)
  · exact .keeps (outer_of_repeatSign hst)
  · exact .keeps (outer_of_repeatCounted hst)
  · obtain ⟨⟨a, left'⟩, -, hst⟩ := bind_eq_ok_iff.mp hst
    obtain ⟨rfl, -⟩ := Prod.mk.inj (Except.ok.inj hst)
    exact .keeps rfl

end State

/-! ## Readings -/

/-- The reader on its way through a source. -/
structure Reading where
  state : State
  /-- What stands before each group that is open, the innermost first. -/
  groups : List (List Char)
  /-- What has been read. -/
  front : List Char
  /-- What is left. -/
  left : List Char

namespace Reading

/-- What is left from the next unit on. -/
def ahead (r : Reading) : List Char := skip r.state.verbose r.left

/-- The blanks and comments before the next unit. -/
def blank (r : Reading) : List Char := taken r.left r.ahead

/-- What stands before the next unit. -/
def place (r : Reading) : List Char := r.front ++ r.blank

/-- Behind the next unit, by the state there and what is left. -/
def behind (r : Reading) (state : State) (left : List Char) : Reading where
  state
  groups :=
    if r.state.outer.length < state.outer.length then r.place :: r.groups
    else if state.outer.length < r.state.outer.length then r.groups.tail
    else r.groups
  front := r.place ++ taken r.ahead left
  left

/-- Behind the next unit, if it can be read. -/
def next? (r : Reading) : Option Reading :=
  match r.ahead with
  | [] => none
  | c :: rest =>
    match r.state.step c rest with
    | .error _ => none
    | .ok (state, left) => some (r.behind state left)

/-- The unit between two readings, without the parenthesis by which it opens or closes a group. -/
def inner (r next : Reading) : List Char :=
  if next.state.outer.length = r.state.outer.length then taken r.ahead next.left
  else (taken r.ahead next.left).tail

/-- Where the reader stops, after as many units as given at most. -/
def stop : Nat → Reading → Reading
  | 0, r => r
  | n + 1, r =>
    match r.next? with
    | none => r
    | some next => stop n next

/-- **The units that are not closed**, the last one first: the unit ahead and the groups that are
open, each by its opening delimiter and by what stands before that. -/
def openings (r : Reading) : List (Char × List Char) :=
  (r.ahead.head?.map fun c => (c, r.place)).toList ++ r.groups.map fun g => ('(', g)

/-- The reader before a source. -/
def start (source : List Char) : Reading := ⟨.start, [], [], source⟩

/-! ## Where it stops -/

variable {r : Reading} {st : State}

theorem ahead_suffix (r : Reading) : r.ahead <:+ r.left := skip_suffix _ _

/-- **What is ahead of a reading**: nothing, a unit that cannot be read, or one that a step of the
reader reads. -/
inductive Ahead (r : Reading) : Prop
  | nil (hahead : r.ahead = []) (hnext : r.next? = none)
  | error {c : Char} {rest : List Char} {f : Fault} (hahead : r.ahead = c :: rest)
      (hstep : r.state.step c rest = .error f) (hnext : r.next? = none)
  | ok {c : Char} {rest left : List Char} {st : State} (hahead : r.ahead = c :: rest)
      (hstep : r.state.step c rest = .ok (st, left)) (hnext : r.next? = some (r.behind st left))

theorem ahead_cases (r : Reading) : r.Ahead := by
  rcases hahead : r.ahead with _ | ⟨c, rest⟩
  · refine .nil hahead ?_
    rw [next?, hahead]
  · rcases hstep : r.state.step c rest with f | ⟨st, left⟩
    · refine .error hahead hstep ?_
      simp only [next?, hahead, hstep]
    · refine .ok hahead hstep ?_
      simp only [next?, hahead, hstep]

/-- Behind a unit less is left. -/
theorem length_left_lt (hahead : r.ahead = c :: rest)
    (hstep : r.state.step c rest = .ok (st, left)) : left.length < r.left.length := by
  have hlength := r.ahead_suffix.length_le
  rw [hahead, List.length_cons] at hlength
  exact Nat.lt_of_le_of_lt (State.suffix_of_step hstep).length_le hlength

/-- **The reader stops where a run ends**, or with the unit ahead at which it fails. -/
theorem run_stop (hn : r.left.length < n) :
    (r.state.run n r.left = .ok (r.stop n).state ∧ (r.stop n).ahead = []) ∨
      ∃ c rest f, r.state.run n r.left = .error f ∧ (r.stop n).ahead = c :: rest ∧
        (r.stop n).state.step c rest = .error f := by
  induction n generalizing r with
  | zero => exact absurd hn (Nat.not_lt_zero _)
  | succ n ih =>
    rw [stop, State.run]
    cases r.ahead_cases with
    | nil hahead hnext =>
      simp only [hnext]
      refine .inl ⟨?_, hahead⟩
      rw [ahead] at hahead
      simp only [hahead]
    | error hahead hstep hnext =>
      simp only [hnext]
      refine .inr ⟨_, _, _, ?_, hahead, hstep⟩
      rw [ahead] at hahead
      simp only [hahead, hstep]
      rfl
    | ok hahead hstep hnext =>
      simp only [hnext]
      have hlength := length_left_lt hahead hstep
      rw [ahead] at hahead
      simp only [hahead, hstep]
      exact ih (r := r.behind _ _) (Nat.lt_of_lt_of_le hlength (Nat.le_of_lt_succ hn))

/-! ## What has been opened -/

/-- **What a unit does to a reading**, and what there is of the unit besides the parenthesis of a
group. -/
inductive Effect (r : Reading) (rest : List Char) (st : State) (left : List Char) : Char → Prop
  | opens {level : Level} (houter : st.outer = level :: r.state.outer)
      (hbehind : r.behind st left =
        ⟨st, r.place :: r.groups, r.place ++ ['('] ++ taken rest left, left⟩)
      (hinner : r.inner (r.behind st left) = taken rest left) : Effect r rest st left '('
  | closes {level : Level} (houter : r.state.outer = level :: st.outer) (hleft : left = rest)
      (hbehind : r.behind st left = ⟨st, r.groups.tail, r.place ++ [')'], left⟩) :
      Effect r rest st left ')'
  | keeps {c : Char} (houter : st.outer = r.state.outer)
      (hbehind : r.behind st left = ⟨st, r.groups, r.place ++ taken (c :: rest) left, left⟩)
      (hinner : r.inner (r.behind st left) = taken (c :: rest) left) : Effect r rest st left c

theorem effect_of_step (hahead : r.ahead = c :: rest)
    (hstep : r.state.step c rest = .ok (st, left)) : r.Effect rest st left c := by
  have hsuffix := State.suffix_of_step hstep
  cases State.nests_step hstep with
  | opens houter =>
    refine .opens houter ?_ ?_
    · simp [behind, houter, hahead, taken_cons hsuffix]
    · simp [inner, behind, houter, hahead, taken_cons hsuffix]
  | closes houter hleft =>
    refine .closes houter hleft ?_
    have hnone : taken rest left = [] := by simp [taken, hleft]
    simp [behind, houter, hahead, taken_cons hsuffix, hnone]
  | keeps houter =>
    refine .keeps houter ?_ ?_
    · simp [behind, houter, hahead]
    · simp [inner, behind, houter, hahead]

/-- **A reading follows a source**: it knows of all groups that are open what stands before
them. -/
structure Follows (source : List Char) (r : Reading) : Prop where
  source_eq : r.front ++ r.left = source
  length_groups : r.groups.length = r.state.outer.length
  /-- A parenthesis stands behind what stands before a group. -/
  opened : ∀ g ∈ r.groups, g ++ ['('] <+: r.front
  nested : r.groups.Pairwise fun inner outer => outer <+: inner

theorem follows_start (source : List Char) : (start source).Follows source where
  source_eq := rfl
  length_groups := rfl
  opened := by rintro g ⟨⟩
  nested := .nil

theorem place_append_ahead (r : Reading) : r.place ++ r.ahead = r.front ++ r.left := by
  rw [place, List.append_assoc, blank, taken_append r.ahead_suffix]

theorem Follows.behind (h : r.Follows source) (hahead : r.ahead = c :: rest)
    (hstep : r.state.step c rest = .ok (st, left)) : (r.behind st left).Follows source := by
  have hread : (r.behind st left).front ++ left = source := by
    have hleft : left <:+ r.ahead := by
      rw [hahead]
      exact (State.suffix_of_step hstep).trans (List.suffix_cons c rest)
    rw [Reading.behind, List.append_assoc, taken_append hleft, place_append_ahead, h.source_eq]
  have hplace : r.front <+: r.place := List.prefix_append _ _
  have hfront : r.place <+: (r.behind st left).front := List.prefix_append _ _
  have hopened : ∀ g ∈ r.groups, g ++ ['('] <+: (r.behind st left).front :=
    fun g hg => ((h.opened g hg).trans hplace).trans hfront
  cases effect_of_step hahead hstep with
  | opens houter hbehind =>
    rw [hbehind] at hread hopened ⊢
    refine ⟨hread, ?_, List.forall_mem_cons.mpr ⟨List.prefix_append _ _, hopened⟩, ?_⟩
    · rw [List.length_cons, h.length_groups, houter, List.length_cons]
    · refine .cons (fun g hg => ?_) h.nested
      exact ((List.prefix_append g _).trans (h.opened g hg)).trans hplace
  | closes houter hleft hbehind =>
    rw [hbehind] at hread hopened ⊢
    refine ⟨hread, ?_, fun g hg => hopened g (List.mem_of_mem_tail hg), h.nested.tail⟩
    rw [List.length_tail, h.length_groups, houter, List.length_cons, Nat.add_sub_cancel]
  | keeps houter hbehind =>
    rw [hbehind] at hread hopened ⊢
    refine ⟨hread, ?_, hopened, h.nested⟩
    rw [h.length_groups, houter]

/-- **Where the reader stops it follows the source.** -/
theorem Follows.stop (h : r.Follows source) (n : Nat) : (r.stop n).Follows source := by
  induction n generalizing r with
  | zero => exact h
  | succ n ih =>
    rw [Reading.stop]
    cases r.ahead_cases with
    | nil _ hnext | error _ _ hnext =>
      rw [hnext]
      exact h
    | ok hahead hstep hnext =>
      rw [hnext]
      exact ih (h.behind hahead hstep)

theorem openings_of_nil (hahead : r.ahead = []) : r.openings = r.groups.map fun g => ('(', g) := by
  rw [openings, hahead]
  rfl

theorem openings_of_cons (hahead : r.ahead = c :: rest) :
    r.openings = (c, r.place) :: r.groups.map fun g => ('(', g) := by
  rw [openings, hahead]
  rfl

/-- **The openers that are not closed stand in the source**, each behind those that are told after
it. -/
theorem Follows.openings_nested (h : r.Follows source) :
    (∀ o ∈ r.openings, o.2 ++ [o.1] <+: source) ∧
      r.openings.Pairwise fun inner outer => outer.2 <+: inner.2 := by
  have hfront : r.front <+: source := ⟨r.left, h.source_eq⟩
  have hgroups : ∀ o ∈ r.groups.map fun g => ('(', g), o.2 ++ [o.1] <+: r.front := by
    simpa using h.opened
  have hnested : (r.groups.map fun g => ('(', g)).Pairwise fun inner outer => outer.2 <+: inner.2 :=
    List.pairwise_map.mpr h.nested
  rcases hahead : r.ahead with _ | ⟨c, rest⟩
  · rw [openings_of_nil hahead]
    exact ⟨fun o ho => (hgroups o ho).trans hfront, hnested⟩
  · rw [openings_of_cons hahead, List.forall_mem_cons]
    refine ⟨⟨⟨rest, ?_⟩, fun o ho => (hgroups o ho).trans hfront⟩, .cons (fun o ho => ?_) hnested⟩
    · rw [List.append_assoc, List.singleton_append, ← hahead, place_append_ahead, h.source_eq]
    · exact ((List.prefix_append _ _).trans (hgroups o ho)).trans (List.prefix_append _ _)

/-- Where the first opener that is not closed is none of a group, it is that of the unit ahead. -/
theorem openings_eq_singleton {first : Char × List Char} (hfirst : r.openings.getLast? = some first)
    (hkind : first.1 ≠ '(') : r.openings = [first] ∧ r.ahead.head? = some first.1 := by
  rcases List.eq_nil_or_concat' r.groups with hgroups | ⟨groups, g, hgroups⟩
  · rw [openings, hgroups] at hfirst ⊢
    cases hahead : r.ahead with
    | nil =>
      rw [hahead] at hfirst
      cases hfirst
    | cons c rest =>
      rw [hahead] at hfirst
      obtain rfl := Option.some.inj hfirst
      exact ⟨rfl, rfl⟩
  · rw [openings, hgroups, List.map_append, ← List.append_assoc] at hfirst
    obtain rfl := Option.some.inj (List.getLast?_concat.symm.trans hfirst)
    exact absurd rfl hkind

end Reading

end Reader

end Pattern

end LogSift
