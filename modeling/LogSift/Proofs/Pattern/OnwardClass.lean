import LogSift.Proofs.Pattern.Onward
import Mathlib.Data.List.TakeWhile
/-!
# Bracketed classes go on

A bracketed class is closed within the text. So it is read the same when the
text goes on, and the tail is left as it is (`bracket_leaves`): what the
reader looks ahead for, a class's name, a dash that makes no range, or the
second mark of an operator, is not found in the tail.
-/


namespace LogSift

namespace Pattern

namespace Reader

open Text (after?)

variable {tail cs left left' rest : List Char} {v : Bool} {n m : Nat} {c : Char}

/-! ## Members -/

theorem classAtom_reads (h : Closing tail) (c : Char) (cs : List Char) :
    Reads v tail (classAtom v c) (classAtom v c) cs := by
  intro x left hx
  unfold classAtom at hx ⊢
  split at hx
  · rename_i hc
    rw [if_pos hc]
    exact escape_reads h cs x left hx
  · rename_i hc
    rw [if_neg hc]
    cases hx
    exact ⟨List.suffix_refl _, _, rfl, .inl rfl⟩

/-! ## Openings -/

theorem leadingDashes_leaves (h : Closing tail) (hnm : n ≤ m) (members : List ClassSet)
    (cs : List Char) : Leaves tail (leadingDashes v n members) (leadingDashes v m members) cs := by
  induction n generalizing m members cs with
  | zero =>
    intro x left hx
    cases hx
  | succ n ih =>
    intro x left hx
    obtain ⟨m, rfl⟩ := Nat.exists_eq_add_of_le' (Nat.le_of_add_left_le hnm)
    cases cs with
    | nil => cases hx
    | cons c rest =>
      rw [leadingDashes] at hx
      rw [List.cons_append, leadingDashes]
      split at hx
      · rename_i hc
        rw [if_pos hc]
        rcases hskip : skip v rest with _ | ⟨d, behind⟩
        · rw [hskip] at hx
          cases n <;> cases hx
        · obtain ⟨hsuffix, hskip'⟩ := skip_cons h hskip
          rw [hskip] at hx
          obtain ⟨hleft, hx'⟩ := ih (Nat.le_of_succ_le_succ hnm) _ _ _ _ hx
          rw [hskip', ← List.cons_append]
          exact ⟨(hleft.trans hsuffix).trans (List.suffix_cons c rest), hx'⟩
      · rename_i hc
        rw [if_neg hc]
        cases hx
        exact ⟨List.suffix_refl _, rfl⟩

theorem openClass_leaves (h : Closing tail) (cs : List Char) :
    Leaves tail (openClass v) (openClass v) cs := by
  intro x left hx
  unfold openClass at hx ⊢
  rcases hskip : skip v cs with _ | ⟨c, rest⟩
  · rw [hskip] at hx
    cases hx
  · obtain ⟨hsuffix, hskip'⟩ := skip_cons h hskip
    rw [hskip] at hx
    rw [hskip']
    obtain ⟨⟨members, mid⟩, hmembers, hx⟩ := bind_eq_ok_iff.mp hx
    -- Dashes on nothing fail, and so there is something to read.
    have hinner : ∃ inner, inner <:+ cs ∧
        (if decide (c = '^') then skip v (rest ++ tail) else c :: (rest ++ tail)) = inner ++ tail ∧
        leadingDashes v (inner.length + 1) [] inner = .ok (members, mid) := by
      split at hmembers
      · rename_i hc
        rw [if_pos hc]
        rcases hinner : skip v rest with _ | ⟨d, behind⟩
        · rw [hinner] at hmembers
          cases hmembers
        · obtain ⟨hbehind, hinner'⟩ := skip_cons h hinner
          rw [hinner] at hmembers
          exact ⟨_, hbehind.trans ((List.suffix_cons c rest).trans hsuffix), hinner', hmembers⟩
      · rename_i hc
        rw [if_neg hc]
        exact ⟨_, hsuffix, rfl, hmembers⟩
    obtain ⟨inner, hinner, hinner', hmembers⟩ := hinner
    obtain ⟨hmid, hmembers'⟩ := leadingDashes_leaves h (fuel_le tail inner) [] inner _ _ hmembers
    have hmid' : mid <:+ cs := hmid.trans hinner
    simp only [hinner', hmembers', bind, Except.bind] at hx ⊢
    clear hmembers hmembers'
    split at hx
    · rename_i left'
      split at hx
      · cases hx
      · rename_i hbehind
        rcases hskip : skip v left' with _ | ⟨d, behind⟩
        · exact absurd hskip hbehind
        · obtain ⟨hleft, hskip'⟩ := skip_cons h hskip
          rw [hskip] at hx
          rw [List.cons_append]
          simp only [hskip']
          cases hx
          exact ⟨(hleft.trans (List.suffix_cons ']' left')).trans hmid', rfl⟩
    · rename_i hbracket
      cases hx
      refine ⟨hmid', ?_⟩
      split
      · rename_i heq
        obtain ⟨more, rfl, -⟩ := h.cons_of_append (c := ']') (by decide) heq
        exact (hbracket more rfl rfl).elim
      · rfl

/-! ## Names -/

/-- What follows the colon of a named class, and its caret. -/
def className? (negated : Bool) (inner : List Char) : Option (ClassSet × List Char) :=
  (after? [':', ']'] (inner.dropWhile (· != ':'))).bind fun left =>
    (asciiClass? (inner.takeWhile (· != ':'))).map fun kind => (.ascii kind negated, left)

theorem namedClass?_colon (rest : List Char) : namedClass? (':' :: rest) =
    className? (rest.head? = some '^')
      (if rest.head? = some '^' then rest.drop 1 else rest) := by
  simp only [namedClass?, className?, decide_eq_true_eq]
  split <;> simp only [*, Option.bind]

theorem namedClass?_of_ne (hc : c ≠ ':') : namedClass? (c :: rest) = none := by
  unfold namedClass?
  split
  · rename_i heq
    exact absurd (List.cons.inj heq).1 hc
  · rfl

theorem className?_append (h : Closing tail) (negated : Bool) (inner : List Char) :
    className? negated (inner ++ tail) =
      (className? negated inner).map (Prod.map id (· ++ tail)) := by
  have htail : tail.dropWhile (· != ':') = [] := List.dropWhile_eq_nil_iff.mpr
    fun c hc => bne_iff_ne.mpr fun hcolon => h.colon (hcolon ▸ hc)
  rw [className?, className?, List.dropWhile_append, List.takeWhile_append, htail]
  rcases hdrop : inner.dropWhile (· != ':') with _ | ⟨d, behind⟩
  · rfl
  · have hinner : inner.takeWhile (· != ':') ++ d :: behind = inner :=
      hdrop ▸ List.takeWhile_append_dropWhile
    have hlength : (inner.takeWhile (· != ':')).length ≠ inner.length := fun heq => by
      have := congrArg List.length hinner
      rw [List.length_append, heq, List.length_cons] at this
      omega
    rw [List.isEmpty_cons, if_neg Bool.false_ne_true, if_neg hlength, after?_append h (by decide)]
    cases after? [':', ']'] (d :: behind) with
    | none => rfl
    | some left => cases hclass : asciiClass? (inner.takeWhile (· != ':')) <;> rfl

/-- **A class's name ends before the tail**, and none is found in it. -/
theorem namedClass?_append (h : Closing tail) (cs : List Char) :
    namedClass? (cs ++ tail) = (namedClass? cs).map (Prod.map id (· ++ tail)) := by
  cases cs with
  | nil =>
    obtain ⟨more, rfl⟩ := h.exists_cons
    rfl
  | cons c rest =>
    rw [List.cons_append]
    by_cases hc : c = ':'
    · subst hc
      rw [namedClass?_colon, namedClass?_colon]
      cases rest with
      | nil =>
        obtain ⟨more, rfl⟩ := h.exists_cons
        exact className?_append h false []
      | cons d inner =>
        simp only [List.cons_append, List.head?_cons, List.drop_succ_cons, List.drop_zero]
        split
        · exact className?_append h _ inner
        · exact className?_append h _ (d :: inner)
    · rw [namedClass?_of_ne hc, namedClass?_of_ne hc]
      rfl

theorem namedClass?_suffix {s : ClassSet} (hname : namedClass? cs = some (s, left)) :
    left <:+ cs := by
  cases cs with
  | nil => cases hname
  | cons c rest =>
    by_cases hc : c = ':'
    · subst hc
      rw [namedClass?_colon] at hname
      obtain ⟨behind, hbehind, hclass⟩ := Option.bind_eq_some_iff.mp hname
      obtain ⟨kind, -, heq⟩ := Option.map_eq_some_iff.mp hclass
      obtain ⟨rfl, rfl⟩ := Prod.mk.inj heq
      have hinner : (if rest.head? = some '^' then rest.drop 1 else rest) <:+ rest := by
        split
        · exact List.drop_suffix 1 rest
        · exact List.suffix_refl rest
      exact (((after?_suffix hbehind).trans (List.dropWhile_suffix _)).trans hinner).trans
        (List.suffix_cons ':' rest)
    · rw [namedClass?_of_ne hc] at hname
      cases hname

/-! ## Ranges -/

theorem peek_go_append (h : Closing tail) (seen : Bool) (cs : List Char) :
    peek.go seen (cs ++ tail) = (peek.go seen cs).or (some ')') := by
  induction cs generalizing seen with
  | nil =>
    obtain ⟨more, rfl⟩ := h.exists_cons
    cases seen <;> rfl
  | cons c rest ih =>
    rw [List.cons_append, peek.go, peek.go]
    repeat' split
    · exact ih seen
    · exact ih true
    · rfl

/-- What makes a dash no range is not looked for in the tail. -/
theorem peek_append (h : Closing tail) (hblank : isBlank c = false) (hcomment : c ≠ '#')
    (hc : c ≠ ')') (cs : List Char) : peek v (cs ++ tail) = some c ↔ peek v cs = some c := by
  have hhead : (cs ++ tail).head? = some c ↔ cs.head? = some c := by
    cases cs with
    | nil => simp [h.head, hc.symm]
    | cons d rest => rfl
  cases v with
  | false => exact hhead
  | true =>
    rw [peek, if_pos rfl, peek, if_pos rfl, peek_go_append h]
    cases hgo : peek.go false cs with
    | some d => rfl
    | none =>
      -- Only blanks and a hash are left, which the character is not.
      have hne : cs.head? ≠ some c := fun hcs => by
        obtain ⟨rest, rfl⟩ := List.head?_eq_some_iff.mp hcs
        simp [peek.go, hblank, hcomment] at hgo
      simp [hne, hc.symm]

/-- A member may end where the text does: the class is not closed then. -/
theorem classRange_reads (h : Closing tail) (c : Char) (cs : List Char) :
    Reads v tail (classRange v c) (classRange v c) cs := by
  intro x left hx
  obtain ⟨⟨first, mid⟩, hfirst, hx⟩ := bind_eq_ok_iff.mp hx
  simp only at hx
  rcases hskip : skip v mid with _ | ⟨d, behind⟩
  · rw [hskip] at hx
    cases hx
  · obtain ⟨hbehind, hskip'⟩ := skip_cons h hskip
    rw [hskip] at hx
    have hmid : mid ≠ [] := by
      rintro rfl
      cases List.suffix_nil.mp hbehind
    obtain ⟨hsuffix, hfirst'⟩ := (classAtom_reads h c cs).append hfirst hmid
    have hrest : d :: behind <:+ cs := hbehind.trans hsuffix
    have hdash : (d != '-' || peek v (behind ++ tail) = some ']' ||
        peek v (behind ++ tail) = some '-') =
        (d != '-' || peek v behind = some ']' || peek v behind = some '-') := by
      rw [decide_eq_decide.mpr (peek_append h (by decide) (by decide) (by decide) behind),
        decide_eq_decide.mpr (peek_append h (by decide) (by decide) (by decide) behind)]
    simp only at hx
    split at hx
    · rename_i hmember
      obtain ⟨s, hs, hx⟩ := bind_eq_ok_iff.mp hx
      obtain ⟨rfl, rfl⟩ := Prod.mk.inj (Except.ok.inj hx)
      refine ⟨hrest, d :: behind ++ tail, bind_eq_ok_iff.mpr ⟨_, hfirst', ?_⟩, .inl rfl⟩
      simp only [hskip', hdash]
      rw [if_pos hmember]
      exact bind_eq_ok_iff.mpr ⟨s, hs, rfl⟩
    · rename_i hmember
      rcases hinner : skip v behind with _ | ⟨e, inside⟩
      · rw [hinner] at hx
        cases hx
      · obtain ⟨hinside, hinner'⟩ := skip_cons h hinner
        rw [hinner] at hx
        have hinside' : inside <:+ cs := ((List.suffix_cons e inside).trans hinside).trans
          ((List.suffix_cons d behind).trans hrest)
        obtain ⟨⟨last, left'⟩, hlast, hx⟩ := bind_eq_ok_iff.mp hx
        obtain ⟨lo, hlo, hx⟩ := bind_eq_ok_iff.mp hx
        obtain ⟨hi, hhi, hx⟩ := bind_eq_ok_iff.mp hx
        simp only at hx
        split at hx
        · rename_i hle
          obtain ⟨rfl, rfl⟩ := Prod.mk.inj (Except.ok.inj hx)
          obtain ⟨hleft, left', hlast', honward⟩ :=
            (classAtom_reads h e inside).of_suffix hlast hinside'
          refine ⟨hleft, left', bind_eq_ok_iff.mpr ⟨_, hfirst', ?_⟩, honward⟩
          simp only [hskip', hdash]
          rw [if_neg hmember, hinner']
          refine bind_eq_ok_iff.mpr ⟨_, hlast', bind_eq_ok_iff.mpr ⟨lo, hlo,
            bind_eq_ok_iff.mpr ⟨hi, hhi, ?_⟩⟩⟩
          exact if_pos hle
        · cases hx

/-! ## Whole classes -/

theorem classLoop_nil (level : ClassLevel) (outer : List ClassLevel) :
    classLoop v n level outer [] = .error .classUnclosed := by
  have hskip : skip v [] = [] := by cases v <;> rfl
  cases n with
  | zero => rfl
  | succ n => rw [classLoop, hskip]

/-- What starts no class, ends none and is no operator is a member or a range. -/
theorem classLoop_of_member {level : ClassLevel} {outer : List ClassLevel}
    (hskip : skip v cs = c :: rest) (hopen : c ≠ '[') (hclose : c ≠ ']')
    (hoperator : ∀ mark ∈ ['&', '-', '~'], ∀ more, c = mark → rest ≠ mark :: more) :
    classLoop v (n + 1) level outer cs = classRange v c rest >>=
      fun (s, left) => classLoop v n (level.add s) outer left := by
  rw [classLoop, hskip]
  split
  · rename_i heq
    cases heq
  · rename_i heq
    exact absurd (List.cons.inj heq).1 hopen
  · rename_i heq
    exact absurd (List.cons.inj heq).1 hclose
  · rename_i heq
    obtain ⟨hc, hrest⟩ := List.cons.inj heq
    exact absurd hrest (hoperator '&' (by simp) _ hc)
  · rename_i heq
    obtain ⟨hc, hrest⟩ := List.cons.inj heq
    exact absurd hrest (hoperator '-' (by simp) _ hc)
  · rename_i heq
    obtain ⟨hc, hrest⟩ := List.cons.inj heq
    exact absurd hrest (hoperator '~' (by simp) _ hc)
  · rename_i heq
    obtain ⟨rfl, rfl⟩ := List.cons.inj heq
    rfl

/-- A class that is closed leaves the tail. -/
theorem classLoop_leaves (h : Closing tail) (hnm : n ≤ m) (level : ClassLevel)
    (outer : List ClassLevel) (cs : List Char) :
    Leaves tail (classLoop v n level outer) (classLoop v m level outer) cs := by
  induction n generalizing m level outer cs with
  | zero =>
    intro x left hx
    cases hx
  | succ n ih =>
    intro x left hx
    obtain ⟨m, rfl⟩ := Nat.exists_eq_add_of_le' (Nat.le_of_add_left_le hnm)
    have ih := fun level outer {more x left} (hmore : more <:+ cs)
        (hx : classLoop v n level outer more = .ok (x, left)) =>
      (ih (Nat.le_of_succ_le_succ hnm) level outer more x left hx).imp_left (·.trans hmore)
    rw [classLoop] at hx
    rcases hskip : skip v cs with _ | ⟨c, rest⟩
    · rw [hskip] at hx
      cases hx
    · obtain ⟨hsuffix, hskip'⟩ := skip_cons h hskip
      have hrest : rest <:+ cs := (List.suffix_cons c rest).trans hsuffix
      rw [hskip] at hx
      split at hx
      · rename_i heq
        cases heq
      · rename_i inner heq
        obtain ⟨rfl, rfl⟩ := List.cons.inj heq
        rw [classLoop, hskip']
        simp only
        rw [namedClass?_append h]
        split at hx
        · rename_i s behind hname
          rw [hname]
          exact ih _ _ ((namedClass?_suffix hname).trans hrest) hx
        · rename_i hname
          rw [hname]
          obtain ⟨⟨inner', behind⟩, hinner, hx⟩ := bind_eq_ok_iff.mp hx
          obtain ⟨hbehind, hinner'⟩ := openClass_leaves h rest _ _ hinner
          obtain ⟨hleft, hx⟩ := ih _ _ (hbehind.trans hrest) hx
          exact ⟨hleft, bind_eq_ok_iff.mpr ⟨_, hinner', hx⟩⟩
      · rename_i inner heq
        obtain ⟨rfl, rfl⟩ := List.cons.inj heq
        rw [classLoop, hskip']
        simp only
        split at hx
        · obtain ⟨rfl, rfl⟩ := Prod.mk.inj (Except.ok.inj hx)
          exact ⟨hrest, rfl⟩
        · exact ih _ _ hrest hx
      iterate 3
        · rename_i inner heq
          obtain ⟨rfl, rfl⟩ := List.cons.inj heq
          rw [classLoop, hskip']
          exact ih _ _ ((List.suffix_cons _ inner).trans hrest) hx
      · rename_i c' rest' hopen hclose hand hminus htilde heq
        obtain ⟨rfl, rfl⟩ := List.cons.inj heq
        obtain ⟨⟨s, behind⟩, hs, hx⟩ := bind_eq_ok_iff.mp hx
        have hbehind : behind ≠ [] := by
          rintro rfl
          cases (classLoop_nil _ _).symm.trans hx
        obtain ⟨hsuffix', hs'⟩ := (classRange_reads h c rest).append hs hbehind
        obtain ⟨hleft, hx⟩ := ih _ _ (hsuffix'.trans hrest) hx
        refine ⟨hleft, ?_⟩
        rw [classLoop_of_member hskip' hopen hclose]
        · exact bind_eq_ok_iff.mpr ⟨_, hs', hx⟩
        · -- The tail does not make an operator of what was none.
          intro mark hmark more hc heq
          have hne : mark ≠ ')' := by
            rintro rfl
            simp at hmark
          obtain ⟨inner, hinner, -⟩ := h.cons_of_append hne heq
          simp only [List.mem_cons, List.not_mem_nil, or_false] at hmark
          rcases hmark with rfl | rfl | rfl
          · exact hand inner hc hinner
          · exact hminus inner hc hinner
          · exact htilde inner hc hinner

/-- A bracketed class ends before the tail. -/
theorem bracket_leaves (h : Closing tail) (cs : List Char) :
    Leaves tail (bracket v) (bracket v) cs := by
  intro x left hx
  obtain ⟨⟨level, mid⟩, hlevel, hx⟩ := bind_eq_ok_iff.mp hx
  obtain ⟨⟨level', left'⟩, hlevel', hx⟩ := bind_eq_ok_iff.mp hx
  obtain ⟨rfl, rfl⟩ := Prod.mk.inj (Except.ok.inj hx)
  obtain ⟨hmid, hopen⟩ := openClass_leaves h cs _ _ hlevel
  obtain ⟨hleft, hclass⟩ := classLoop_leaves h (fuel_le tail mid) _ _ _ _ _ hlevel'
  refine ⟨hleft.trans hmid, bind_eq_ok_iff.mpr ⟨_, hopen, bind_eq_ok_iff.mpr ⟨_, hclass, rfl⟩⟩⟩

end Reader

end Pattern

end LogSift
