import LogSift.Proofs.Pattern.OnwardClass
import LogSift.Proofs.Pattern.Verbose
/-!
# Groups and runs go on

A step leaves a tail behind the text as it is, or ends in a comment that
takes it in (`State.step_reads`). Groups that are open around the text wait
unchanged (`State.step_within`). So a run goes on with the tail, or ends in a
comment, for which verbose mode has to be on (`State.run_within`).
-/


namespace LogSift

namespace Pattern

namespace Reader

open Text (after?)

variable {tail cs left left' rest : List Char} {v : Bool} {n m : Nat} {c : Char}

/-! ## Bounds of a repetition -/

/-- What is left behind the mark of a lazy repetition, if there is one. -/
def dropMark (cs : List Char) : List Char :=
  if decide (cs.head? = some '?') = true then cs.drop 1 else cs

theorem dropMark_suffix (cs : List Char) : dropMark cs <:+ cs := by
  unfold dropMark
  split
  · exact List.drop_suffix 1 cs
  · exact List.suffix_refl cs

/-- The tail is no mark of a lazy repetition. -/
theorem Onward.dropMark (h : Closing tail) (honward : Onward v tail cs left left') :
    decide (left'.head? = some '?') = decide (left.head? = some '?') ∧
      Onward v tail cs (Reader.dropMark left) (Reader.dropMark left') := by
  rcases honward with rfl | ⟨rfl, rfl, hmem⟩
  · cases left with
    | nil =>
      obtain ⟨more, rfl⟩ := h.exists_cons
      exact ⟨rfl, .inl rfl⟩
    | cons c rest =>
      exact ⟨rfl, .inl (apply_ite (· ++ tail) _ _ _).symm⟩
  · exact ⟨rfl, .inr ⟨rfl, rfl, hmem⟩⟩

/-- What stands behind the comma of a counted repetition. -/
def upperBound (v : Bool) (least : Except Fault Nat) (cs : List Char) :
    Except Fault ((Nat × Option Nat) × List Char) :=
  match skip v cs with
  | [] => .error .countUnclosed
  | '}' :: left => do return ((← least, none), '}' :: left)
  | left => do
    let least ← least
    let (most, left) := count v left
    return ((least, some (← most)), left)

theorem upperBound_reads (h : Closing tail) (least : Except Fault Nat) (cs : List Char) :
    Reads v tail (upperBound v least) (upperBound v least) cs := by
  intro x left hx
  unfold upperBound at hx ⊢
  rcases hskip : skip v cs with _ | ⟨d, inner⟩
  · rw [hskip] at hx
    cases hx
  · obtain ⟨hinner, hskip'⟩ := skip_cons h hskip
    rw [hskip] at hx
    rw [hskip']
    split at hx
    · rename_i heq
      cases heq
    · rename_i inside heq
      cases heq
      obtain ⟨n, hn, hx⟩ := bind_eq_ok_iff.mp hx
      obtain ⟨rfl, rfl⟩ := Prod.mk.inj (Except.ok.inj hx)
      exact ⟨hinner, _, bind_eq_ok_iff.mpr ⟨n, hn, rfl⟩, .inl rfl⟩
    · rename_i hbrace
      obtain ⟨n, hn, hx⟩ := bind_eq_ok_iff.mp hx
      rcases hmost : count v (d :: inner) with ⟨most, last⟩
      rw [hmost] at hx
      obtain ⟨k, hk, hx⟩ := bind_eq_ok_iff.mp hx
      obtain ⟨rfl, rfl⟩ := Prod.mk.inj (Except.ok.inj hx)
      obtain ⟨hlast, last', hmost', honward⟩ := count_onward h hmost
      refine ⟨hlast.trans hinner, last', ?_, honward.mono hinner⟩
      split
      · rename_i heq
        cases heq
      · rename_i heq
        cases heq
        exact (hbrace inner rfl).elim
      · refine bind_eq_ok_iff.mpr ⟨n, hn, ?_⟩
        rw [← List.cons_append, hmost']
        exact bind_eq_ok_iff.mpr ⟨k, hk, rfl⟩

theorem bounds_reads (h : Closing tail) (cs : List Char) :
    Reads v tail (State.bounds v) (State.bounds v) cs := by
  intro x left hx
  unfold State.bounds at hx ⊢
  rcases hcount : count v cs with ⟨least, mid⟩
  obtain ⟨hmid, mid', hcount', honward⟩ := count_onward h hcount
  rw [hcount] at hx
  rw [hcount']
  simp only at hx ⊢
  split at hx
  · cases hx
  · rename_i behind
    obtain rfl := honward.eq_of_ne_nil (List.cons_ne_nil ',' behind)
    exact (upperBound_reads h least behind).of_suffix hx ((List.suffix_cons ',' behind).trans hmid)
  · rename_i hnil hcomma
    obtain rfl := honward.eq_of_ne_nil hnil
    obtain ⟨n, hn, hx⟩ := bind_eq_ok_iff.mp hx
    obtain ⟨rfl, rfl⟩ := Prod.mk.inj (Except.ok.inj hx)
    refine ⟨hmid, mid ++ tail, ?_, .inl rfl⟩
    split
    · rename_i heq
      exact (hnil (List.append_eq_nil_iff.mp heq).1).elim
    · rename_i heq
      obtain ⟨more, hmore, -⟩ := h.cons_of_append (by decide) heq
      exact (hcomma more hmore).elim
    · exact bind_eq_ok_iff.mpr ⟨n, hn, rfl⟩

/-! ## Groups -/

theorem flags_append (tail : List Char) {negated dangling : Bool} {change change' : FlagChange}
    (hflags : flags negated dangling change cs = .ok (change', c, left)) :
    left <:+ cs ∧ flags negated dangling change (cs ++ tail) = .ok (change', c, left ++ tail) := by
  induction cs generalizing negated dangling change with
  | nil => cases hflags
  | cons d rest ih =>
    rw [flags] at hflags
    rw [List.cons_append, flags]
    have ih := fun {negated dangling change} hflags =>
      (@ih negated dangling change hflags).imp_left
        (·.trans (List.suffix_cons d rest))
    split at hflags
    · rename_i hd
      rw [if_pos hd]
      split at hflags
      · cases hflags
      · rename_i hdangling
        obtain ⟨rfl, heq⟩ := Prod.mk.inj (Except.ok.inj hflags)
        obtain ⟨rfl, rfl⟩ := Prod.mk.inj heq
        exact ⟨List.suffix_cons d rest, if_neg hdangling⟩
    · rename_i hd
      rw [if_neg hd]
      split at hflags
      · rename_i hdash
        rw [if_pos hdash]
        split at hflags
        · cases hflags
        · rename_i hnegated
          rw [if_neg hnegated]
          exact ih hflags
      · rename_i hdash
        rw [if_neg hdash]
        split at hflags
        · cases hflags
        · split at hflags
          · cases hflags
          · rename_i hnew
            rw [if_neg hnew]
            exact ih hflags

theorem groupName_leaves (name : List Char) (cs : List Char) :
    Leaves tail (groupName name) (groupName name) cs := by
  induction cs generalizing name with
  | nil =>
    intro x left hx
    cases hx
  | cons c rest ih =>
    intro x left hx
    rw [groupName] at hx
    rw [List.cons_append, groupName]
    split at hx
    · rename_i hc
      obtain ⟨rfl, rfl⟩ := Prod.mk.inj (Except.ok.inj hx)
      exact ⟨List.suffix_cons c rest, if_pos hc⟩
    · rename_i hc
      split at hx
      · rename_i hletter
        obtain ⟨hleft, hx⟩ := ih _ _ _ hx
        rw [if_neg hc, if_pos hletter]
        exact ⟨hleft.trans (List.suffix_cons c rest), hx⟩
      · cases hx

namespace State

variable {st st' : State}

theorem enterNamed_leaves (tail : List Char) (st : State) (cs : List Char) :
    Leaves tail st.enterNamed st.enterNamed cs := by
  intro x left hx
  obtain ⟨⟨name, behind⟩, hname, hx⟩ := bind_eq_ok_iff.mp hx
  obtain ⟨hbehind, hname'⟩ := groupName_leaves [] cs _ _ hname
  simp only at hx
  split at hx
  · cases hx
  · rename_i hempty
    split at hx
    · cases hx
    · rename_i hnew
      obtain ⟨rfl, rfl⟩ := Prod.mk.inj (Except.ok.inj hx)
      refine ⟨hbehind, bind_eq_ok_iff.mpr ⟨_, hname', ?_⟩⟩
      simp only
      rw [if_neg hempty, if_neg hnew]
      rfl

/-- A group that starts with a question mark and has no name. -/
def openFlagged (st : State) (letters : List Char) : Except Fault (State × List Char) :=
  if letters.isEmpty then .error .groupUnclosed
  else do
    let (change, closer, left) ← flags false false [] letters
    if closer = ')' then
      if change.isEmpty then .error .repetitionMissing
      else
        return ({ st with
          items := .flags change :: st.items
          verbose := st.verboseAfter change }, left)
    else return (st.enter (.plain change) (st.verboseAfter change), left)

theorem openFlagged_leaves (tail : List Char) (st : State) (letters : List Char) :
    Leaves tail st.openFlagged st.openFlagged letters := by
  intro x left hx
  unfold openFlagged at hx ⊢
  split at hx
  · cases hx
  · rename_i hletters
    obtain ⟨⟨change, closer, behind⟩, hflags, hx⟩ := bind_eq_ok_iff.mp hx
    obtain ⟨hbehind, hflags'⟩ := flags_append tail hflags
    have hletters' : ¬ (letters ++ tail).isEmpty = true := fun hempty =>
      hletters (List.isEmpty_iff.mpr (List.append_eq_nil_iff.mp (List.isEmpty_iff.mp hempty)).1)
    rw [if_neg hletters']
    simp only at hx
    split at hx
    · rename_i hcloser
      split at hx
      · cases hx
      · rename_i hchange
        obtain ⟨rfl, rfl⟩ := Prod.mk.inj (Except.ok.inj hx)
        refine ⟨hbehind, bind_eq_ok_iff.mpr ⟨_, hflags', ?_⟩⟩
        simp only
        rw [if_pos hcloser, if_neg hchange]
        rfl
    · rename_i hcloser
      obtain ⟨rfl, rfl⟩ := Prod.mk.inj (Except.ok.inj hx)
      exact ⟨hbehind, bind_eq_ok_iff.mpr ⟨_, hflags', if_neg hcloser⟩⟩

theorem openGroup_reads (h : Closing tail) (st : State) (cs : List Char) :
    Reads st.verbose tail st.openGroup st.openGroup cs := by
  intro x left hx
  obtain ⟨hskip, honward⟩ := skip_onward h st.verbose cs
  unfold State.openGroup at hx ⊢
  rcases honward with honward | ⟨hskipped, hskipped', hmem⟩
  · rw [honward]
    generalize skip st.verbose cs = inner at hx hskip ⊢
    simp (disch := decide) only [after?_append h, Option.isSome_map] at hx ⊢
    split at hx
    · cases hx
    · rename_i hlook
      rw [if_neg hlook]
      split at hx
      · rename_i behind hbehind
        obtain ⟨hleft, hx⟩ := enterNamed_leaves tail st behind _ _ hx
        rw [hbehind]
        exact ⟨(hleft.trans (after?_suffix hbehind)).trans hskip, _, hx, .inl rfl⟩
      · rename_i hnone
        rw [hnone]
        split at hx
        · rename_i behind hbehind
          obtain ⟨hleft, hx⟩ := enterNamed_leaves tail st behind _ _ hx
          rw [hbehind]
          exact ⟨(hleft.trans (after?_suffix hbehind)).trans hskip, _, hx, .inl rfl⟩
        · rename_i hnone'
          rw [hnone']
          split at hx
          · rename_i letters
            obtain ⟨hleft, hx'⟩ := openFlagged_leaves tail st letters _ _ hx
            exact ⟨(hleft.trans (List.suffix_cons '?' letters)).trans hskip, _, hx', .inl rfl⟩
          · rename_i hmark
            obtain ⟨rfl, rfl⟩ := Prod.mk.inj (Except.ok.inj hx)
            refine ⟨hskip, inner ++ tail, ?_, .inl rfl⟩
            simp only [Option.map_none]
            split
            · rename_i heq
              obtain ⟨more, hmore, -⟩ := h.cons_of_append (by decide) heq
              exact (hmark more hmore).elim
            · rfl
  · rw [hskipped] at hx
    rw [hskipped']
    obtain ⟨rfl, rfl⟩ := Prod.mk.inj (Except.ok.inj hx)
    exact ⟨List.nil_suffix, [], rfl, .inr ⟨rfl, rfl, hmem⟩⟩

/-! ## Repetitions -/

theorem repeatSign_leaves (h : Closing tail) (st : State) (least : Nat) (most : Option Nat)
    (cs : List Char) : Leaves tail (st.repeatSign least most) (st.repeatSign least most) cs := by
  intro x left hx
  unfold State.repeatSign at hx
  split at hx
  · rename_i behind
    obtain ⟨st', hst', hx⟩ := bind_eq_ok_iff.mp hx
    obtain ⟨rfl, rfl⟩ := Prod.mk.inj (Except.ok.inj hx)
    exact ⟨List.suffix_cons '?' behind, bind_eq_ok_iff.mpr ⟨st', hst', rfl⟩⟩
  · rename_i hmark
    obtain ⟨st', hst', hx⟩ := bind_eq_ok_iff.mp hx
    obtain ⟨rfl, rfl⟩ := Prod.mk.inj (Except.ok.inj hx)
    refine ⟨List.suffix_refl cs, ?_⟩
    unfold State.repeatSign
    split
    · rename_i heq
      obtain ⟨more, hmore, -⟩ := h.cons_of_append (by decide) heq
      exact (hmark more hmore).elim
    · exact bind_eq_ok_iff.mpr ⟨st', hst', rfl⟩

theorem repeatCounted_reads (h : Closing tail) (st : State) (cs : List Char) :
    Reads st.verbose tail st.repeatCounted st.repeatCounted cs := by
  intro x left hx
  unfold State.repeatCounted at hx ⊢
  split at hx
  · cases hx
  · split at hx
    · cases hx
    · rename_i hrepeatable
      split at hx
      · cases hx
      · rename_i hskipped
        rcases hskip : skip st.verbose cs with _ | ⟨d, inner⟩
        · exact (hskipped hskip).elim
        · obtain ⟨hinner, hskip'⟩ := skip_cons h hskip
          rw [hskip] at hx
          rw [if_neg hrepeatable, hskip']
          obtain ⟨⟨⟨least, most⟩, mid⟩, hbounds, hx⟩ := bind_eq_ok_iff.mp hx
          simp only at hx ⊢
          split at hx
          · rename_i behind
            obtain ⟨hmid, hbounds'⟩ :=
              (bounds_reads h _).append hbounds (List.cons_ne_nil '}' behind)
            obtain ⟨hskip, honward⟩ := skip_onward h st.verbose behind
            have hbehind : behind <:+ cs := ((List.suffix_cons '}' behind).trans hmid).trans hinner
            obtain ⟨hlazy, honward⟩ := (honward.mono hbehind).dropMark h
            split at hx
            · cases hx
            · rename_i horder
              obtain ⟨st', hst', hx⟩ := bind_eq_ok_iff.mp hx
              obtain ⟨rfl, rfl⟩ := Prod.mk.inj (Except.ok.inj hx)
              refine ⟨((dropMark_suffix _).trans hskip).trans hbehind, _,
                bind_eq_ok_iff.mpr ⟨_, hbounds', ?_⟩, honward⟩
              simp only [List.cons_append]
              rw [if_neg horder, dropMark, hlazy]
              exact bind_eq_ok_iff.mpr ⟨st', hst', rfl⟩
          · cases hx

/-- **A step reads the same** when the text goes on. -/
theorem step_reads (h : Closing tail) (st : State) (c : Char) (cs : List Char) :
    Reads st.verbose tail (st.step c) (st.step c) cs := by
  intro x left hx
  unfold State.step at hx ⊢
  split at hx
  · exact openGroup_reads h st cs x left hx
  · obtain ⟨st', hst', hx⟩ := bind_eq_ok_iff.mp hx
    obtain ⟨rfl, rfl⟩ := Prod.mk.inj (Except.ok.inj hx)
    exact ⟨List.suffix_refl cs, _, bind_eq_ok_iff.mpr ⟨st', hst', rfl⟩, .inl rfl⟩
  · obtain ⟨rfl, rfl⟩ := Prod.mk.inj (Except.ok.inj hx)
    exact ⟨List.suffix_refl cs, _, rfl, .inl rfl⟩
  · obtain ⟨⟨e, behind⟩, he, hx⟩ := bind_eq_ok_iff.mp hx
    obtain ⟨rfl, rfl⟩ := Prod.mk.inj (Except.ok.inj hx)
    obtain ⟨hleft, he'⟩ := bracket_leaves h cs _ _ he
    exact ⟨hleft, _, bind_eq_ok_iff.mpr ⟨_, he', rfl⟩, .inl rfl⟩
  · exact (repeatSign_leaves h st _ _ cs).reads x left hx
  · exact (repeatSign_leaves h st _ _ cs).reads x left hx
  · exact (repeatSign_leaves h st _ _ cs).reads x left hx
  · exact repeatCounted_reads h st cs x left hx
  · obtain ⟨⟨a, behind⟩, ha, hx⟩ := bind_eq_ok_iff.mp hx
    obtain ⟨rfl, rfl⟩ := Prod.mk.inj (Except.ok.inj hx)
    obtain ⟨hleft, left', ha', honward⟩ := atom_reads h _ cs _ _ ha
    exact ⟨hleft, left', bind_eq_ok_iff.mpr ⟨_, ha', rfl⟩, honward⟩

/-! ## Groups around the text -/

/-- The state with more groups open around it. -/
def within (st : State) (base : List Level) : State := { st with outer := st.outer ++ base }

variable {base : List Level}

theorem outer_within (houter : st.outer = []) : (st.within base).outer = base := by
  rw [within, houter]
  rfl

theorem enterNamed_within (hst : st.enterNamed cs = .ok (st', left)) :
    (st.within base).enterNamed cs = .ok (st'.within base, left) := by
  obtain ⟨⟨name, behind⟩, hname, hst⟩ := bind_eq_ok_iff.mp hst
  refine bind_eq_ok_iff.mpr ⟨_, hname, ?_⟩
  simp only at hst ⊢
  split at hst
  · cases hst
  · rename_i hempty
    rw [if_neg hempty]
    split at hst
    · cases hst
    · rename_i hnew
      obtain ⟨rfl, rfl⟩ := Prod.mk.inj (Except.ok.inj hst)
      exact if_neg hnew

theorem openFlagged_within (hst : st.openFlagged cs = .ok (st', left)) :
    (st.within base).openFlagged cs = .ok (st'.within base, left) := by
  unfold openFlagged at hst ⊢
  split at hst
  · cases hst
  · rename_i hletters
    obtain ⟨⟨change, closer, behind⟩, hflags, hst⟩ := bind_eq_ok_iff.mp hst
    rw [if_neg hletters]
    refine bind_eq_ok_iff.mpr ⟨_, hflags, ?_⟩
    simp only at hst ⊢
    split at hst
    · rename_i hcloser
      rw [if_pos hcloser]
      split at hst
      · cases hst
      · rename_i hchange
        obtain ⟨rfl, rfl⟩ := Prod.mk.inj (Except.ok.inj hst)
        exact if_neg hchange
    · rename_i hcloser
      obtain ⟨rfl, rfl⟩ := Prod.mk.inj (Except.ok.inj hst)
      exact if_neg hcloser

theorem openGroup_within (hst : st.openGroup cs = .ok (st', left)) :
    (st.within base).openGroup cs = .ok (st'.within base, left) := by
  unfold State.openGroup at hst ⊢
  have hverbose : (st.within base).verbose = st.verbose := rfl
  simp only [hverbose] at hst ⊢
  split at hst
  · cases hst
  · rename_i hlook
    rw [if_neg hlook]
    split at hst
    · exact enterNamed_within hst
    · split at hst
      · exact enterNamed_within hst
      · split at hst
        · exact openFlagged_within hst
        · obtain ⟨rfl, rfl⟩ := Prod.mk.inj (Except.ok.inj hst)
          rfl

theorem closeGroup_within (hst : st.closeGroup = .ok st') :
    (st.within base).closeGroup = .ok (st'.within base) := by
  unfold State.closeGroup at hst ⊢
  rcases houter : st.outer with _ | ⟨level, outer⟩
  · rw [houter] at hst
    cases hst
  · have houter' : (st.within base).outer = level :: (outer ++ base) := by
      rw [within, houter]
      rfl
    rw [houter] at hst
    rw [houter']
    obtain rfl := Except.ok.inj hst
    rfl

theorem repeatLast_within {least : Nat} {most : Option Nat} {greedy : Bool}
    (hst : st.repeatLast least most greedy = .ok st') :
    (st.within base).repeatLast least most greedy = .ok (st'.within base) := by
  unfold State.repeatLast at hst ⊢
  have hitems : (st.within base).items = st.items := rfl
  rw [hitems]
  split at hst
  · cases hst
  · split at hst
    · cases hst
    · rename_i hrepeatable
      obtain rfl := Except.ok.inj hst
      exact if_neg hrepeatable

theorem repeatSign_within {least : Nat} {most : Option Nat}
    (hst : st.repeatSign least most cs = .ok (st', left)) :
    (st.within base).repeatSign least most cs = .ok (st'.within base, left) := by
  unfold State.repeatSign at hst ⊢
  split at hst
  all_goals
    obtain ⟨st'', hst'', hst⟩ := bind_eq_ok_iff.mp hst
    obtain ⟨rfl, rfl⟩ := Prod.mk.inj (Except.ok.inj hst)
    exact bind_eq_ok_iff.mpr ⟨_, repeatLast_within hst'', rfl⟩

theorem repeatCounted_within (hst : st.repeatCounted cs = .ok (st', left)) :
    (st.within base).repeatCounted cs = .ok (st'.within base, left) := by
  unfold State.repeatCounted at hst ⊢
  have hitems : (st.within base).items = st.items := rfl
  have hverbose : (st.within base).verbose = st.verbose := rfl
  rw [hitems, hverbose]
  split at hst
  · cases hst
  · split at hst
    · cases hst
    · rename_i hrepeatable
      rw [if_neg hrepeatable]
      split at hst
      · cases hst
      · obtain ⟨⟨⟨least, most⟩, behind⟩, hbounds, hst⟩ := bind_eq_ok_iff.mp hst
        refine bind_eq_ok_iff.mpr ⟨_, hbounds, ?_⟩
        simp only at hst ⊢
        split at hst
        · split at hst
          · cases hst
          · rename_i horder
            rw [if_neg horder]
            obtain ⟨st'', hst'', hst⟩ := bind_eq_ok_iff.mp hst
            obtain ⟨rfl, rfl⟩ := Prod.mk.inj (Except.ok.inj hst)
            exact bind_eq_ok_iff.mpr ⟨_, repeatLast_within hst'', rfl⟩
        · cases hst

/-- **A step does the same** with more groups open around it. -/
theorem step_within (hst : st.step c cs = .ok (st', left)) :
    (st.within base).step c cs = .ok (st'.within base, left) := by
  unfold State.step at hst ⊢
  split at hst
  · exact openGroup_within hst
  · obtain ⟨st'', hst'', hst⟩ := bind_eq_ok_iff.mp hst
    obtain ⟨rfl, rfl⟩ := Prod.mk.inj (Except.ok.inj hst)
    exact bind_eq_ok_iff.mpr ⟨_, closeGroup_within hst'', rfl⟩
  · obtain ⟨rfl, rfl⟩ := Prod.mk.inj (Except.ok.inj hst)
    rfl
  · obtain ⟨⟨e, behind⟩, he, hst⟩ := bind_eq_ok_iff.mp hst
    obtain ⟨rfl, rfl⟩ := Prod.mk.inj (Except.ok.inj hst)
    exact bind_eq_ok_iff.mpr ⟨_, he, rfl⟩
  · exact repeatSign_within hst
  · exact repeatSign_within hst
  · exact repeatSign_within hst
  · exact repeatCounted_within hst
  · obtain ⟨⟨a, behind⟩, ha, hst⟩ := bind_eq_ok_iff.mp hst
    obtain ⟨rfl, rfl⟩ := Prod.mk.inj (Except.ok.inj hst)
    exact bind_eq_ok_iff.mpr ⟨_, ha, rfl⟩

/-! ## Runs -/

theorem run_nil (n : Nat) (st : State) : st.run n [] = .ok st := by
  have hskip : skip st.verbose [] = [] := by cases st.verbose <;> rfl
  cases n with
  | zero => rfl
  | succ n => rw [State.run, hskip]

/-- What is skipped makes no difference. -/
theorem run_congr {cs' : List Char} (hskip : skip st.verbose cs = skip st.verbose cs') (n : Nat) :
    st.run n cs = st.run n cs' := by
  cases n with
  | zero => rfl
  | succ n => rw [State.run, State.run, hskip]

theorem run_of_skip_nil (hskip : skip st.verbose cs = []) : st.run n cs = .ok st := by
  cases n with
  | zero => rfl
  | succ n => rw [State.run, hskip]

theorem run_of_skip_cons (hskip : skip st.verbose cs = c :: rest)
    (hstep : st.step c rest = .ok (st', left)) : st.run (n + 1) cs = st'.run n left := by
  rw [State.run, hskip]
  simp only [hstep, bind, Except.bind]

/-- The text leads to a state, and the tail is read from there, whatever groups are open. -/
def GoesOn (tail cs : List Char) (st st' : State) : Prop :=
  ∀ base m, (cs ++ tail).length < m → ∃ k, tail.length < k ∧
    (st.within base).run m (cs ++ tail) = (st'.within base).run k tail

/-- The text leads to a state and takes the tail in, in a comment: that takes a hash and verbose
mode. -/
structure TakesIn (tail cs : List Char) (st st' : State) : Prop where
  hash : '#' ∈ cs
  flag : st.Terse → 'x' ∈ cs
  run : ∀ base m, (cs ++ tail).length < m →
    (st.within base).run m (cs ++ tail) = .ok (st'.within base)

theorem goesOn_of_skip (h : Closing tail) (hskip : skip st.verbose (cs ++ tail) = tail) :
    GoesOn tail cs st st := by
  intro base m hm
  have heq : skip (st.within base).verbose (cs ++ tail) = skip (st.within base).verbose tail :=
    hskip.trans (skip_closing h).symm
  rw [List.length_append] at hm
  exact ⟨m, by omega, run_congr heq m⟩

theorem takesIn_of_run (hcomment : Commented st.verbose cs)
    (hrun : ∀ base m, (cs ++ tail).length < m →
      (st.within base).run m (cs ++ tail) = .ok (st'.within base)) : TakesIn tail cs st st' :=
  ⟨hcomment.2, fun hterse => absurd (hterse.verbose.symm.trans hcomment.1) Bool.false_ne_true, hrun⟩

/-- A step on the way to where the tail is read. -/
theorem GoesOn.step {next : State} (hgo : GoesOn tail left next st')
    (hlength : left.length < cs.length)
    (hfirst : ∀ base m, (st.within base).run (m + 1) (cs ++ tail) =
      (next.within base).run m (left ++ tail)) : GoesOn tail cs st st' := by
  intro base m hm
  obtain ⟨m, rfl⟩ := Nat.exists_eq_succ_of_ne_zero (Nat.ne_zero_of_lt hm)
  rw [List.length_append] at hm
  rw [hfirst base m]
  exact hgo base m (by rw [List.length_append]; omega)

/-- A step on the way to the comment that takes the tail in. -/
theorem TakesIn.step {next : State} (hin : TakesIn tail left next st') (hleft : left <:+ rest)
    (hrest : rest <:+ cs) (hlength : left.length < cs.length)
    (hstep : st.step c rest = .ok (next, left))
    (hfirst : ∀ base m, (st.within base).run (m + 1) (cs ++ tail) =
      (next.within base).run m (left ++ tail)) : TakesIn tail cs st st' := by
  refine ⟨(hleft.trans hrest).mem hin.hash, fun hterse => ?_, fun base m hm => ?_⟩
  · by_contra hx
    have hx' : 'x' ∉ rest := mt hrest.mem hx
    exact hx' (hleft.mem (hin.flag (hterse.step hx' hstep)))
  · obtain ⟨m, rfl⟩ := Nat.exists_eq_succ_of_ne_zero (Nat.ne_zero_of_lt hm)
    rw [List.length_append] at hm
    rw [hfirst base m]
    exact hin.run base m (by rw [List.length_append]; omega)

/-- **A run goes on with the tail, unless the text ends in a comment** that takes it in. -/
theorem run_within (h : Closing tail) (hn : cs.length < n) (hrun : st.run n cs = .ok st') :
    GoesOn tail cs st st' ∨ TakesIn tail cs st st' := by
  induction n generalizing st cs with
  | zero => exact absurd hn (Nat.not_lt_zero _)
  | succ n ih =>
    rcases hskip : skip st.verbose cs with _ | ⟨c, rest⟩
    · obtain rfl := Except.ok.inj ((run_of_skip_nil hskip).symm.trans hrun)
      obtain ⟨-, honward⟩ := skip_onward h st.verbose cs
      rw [hskip] at honward
      rcases honward with hskip' | ⟨-, hskip', hcomment⟩
      · exact .inl (goesOn_of_skip h hskip')
      · exact .inr (takesIn_of_run hcomment fun base m _ => run_of_skip_nil hskip')
    · obtain ⟨hsuffix, hskip'⟩ := skip_cons h hskip
      have hrest : rest <:+ cs := (List.suffix_cons c rest).trans hsuffix
      rw [State.run, hskip] at hrun
      obtain ⟨⟨next, left⟩, hstep, hrun⟩ := bind_eq_ok_iff.mp hrun
      obtain ⟨hleft, left', hstep', honward⟩ := step_reads h st c rest _ _ hstep
      have hlength : left.length < cs.length := Nat.lt_of_le_of_lt hleft.length_le hsuffix.length_le
      have hfirst : ∀ base m, (st.within base).run (m + 1) (cs ++ tail) =
          (next.within base).run m left' := fun base m =>
        run_of_skip_cons (show skip (st.within base).verbose (cs ++ tail) = _ from hskip')
          (step_within hstep')
      rcases honward with rfl | ⟨rfl, rfl, hcomment⟩
      · rcases ih (by omega) hrun with hgo | hin
        · exact .inl (hgo.step hlength hfirst)
        · exact .inr (hin.step hleft hrest hlength hstep hfirst)
      · obtain rfl := Except.ok.inj ((run_nil n next).symm.trans hrun)
        refine .inr (takesIn_of_run (hcomment.mono hrest) fun base m hm => ?_)
        obtain ⟨m, rfl⟩ := Nat.exists_eq_succ_of_ne_zero (Nat.ne_zero_of_lt hm)
        rw [hfirst base m]
        exact run_nil m _

end State

end Reader

end Pattern

end LogSift
