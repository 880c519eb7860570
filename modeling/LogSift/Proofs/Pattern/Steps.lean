import LogSift.Pattern.Reader
import LogSift.Proofs.Pattern.Meaning
/-!
# What a step of the reader does

Each step of the reader makes one of a few changes to its state
(`State.Change`): it adds a unit, opens or closes a group, begins another
branch or repeats the last part. What is kept by each of them is kept by
every step (`State.change_of_step`).
-/


namespace LogSift

namespace Pattern

namespace Reader

variable {cs left : List Char} {c : Char}

/-! ## Blanks -/

theorem dropBlank_suffix (inComment : Bool) (cs : List Char) : dropBlank inComment cs <:+ cs := by
  induction cs generalizing inComment with
  | nil => exact List.suffix_refl _
  | cons c rest ih =>
    rw [dropBlank]
    split
    · exact (ih _).trans (List.suffix_cons c rest)
    · split
      · exact (ih _).trans (List.suffix_cons c rest)
      · split
        · exact (ih _).trans (List.suffix_cons c rest)
        · exact List.suffix_refl _

theorem skip_suffix (verbose : Bool) (cs : List Char) : skip verbose cs <:+ cs := by
  rw [skip]
  split
  · exact dropBlank_suffix false cs
  · exact List.suffix_refl cs

namespace State

variable {st st' : State} {least : Nat} {most : Option Nat} {greedy : Bool}

/-! ## Changes -/

/-- **The change that a step makes** over a text. -/
inductive Change (cs : List Char) (st : State) : State → Prop
  | atom (a : Atom) : Change cs st { st with items := .atom a :: st.items }
  | bracket (negated : Bool) (set : ClassSet) :
      Change cs st { st with items := .bracket negated set :: st.items }
  /-- Flags are set for the rest of the group. -/
  | flags {letters left : List Char} {change : FlagChange} {closer : Char}
      (hletters : letters <:+ cs)
      (hflags : Reader.flags false false [] letters = .ok (change, closer, left)) :
      Change cs st
        { st with items := .flags change :: st.items, verbose := st.verboseAfter change }
  /-- A group is opened that captures nothing. -/
  | plain {letters left : List Char} {change : FlagChange} {closer : Char}
      (hletters : letters <:+ cs)
      (hflags : Reader.flags false false [] letters = .ok (change, closer, left)) :
      Change cs st (st.enter (.plain change) (st.verboseAfter change))
  | capture (name : Option String) (names : List (List Char)) :
      Change cs st (({ st with captures := st.captures + 1, names } : State).enter
        (.capture (st.captures + 1) name) st.verbose)
  | close {level : Level} {outer : List Level} (houter : st.outer = level :: outer) :
      Change cs st { st with
        outer
        branches := level.branches
        items := (match level.kind with
          | .capture index name => Expr.capture index name st.expr
          | .plain change => Expr.group change st.expr) :: level.items
        verbose := level.verbose }
  | branch : Change cs st
      { st with branches := Expr.ofItems st.items :: st.branches, items := [] }
  | repeated {e : Expr} {items : List Expr} {least : Nat} {most : Option Nat} {greedy : Bool}
      (hitems : st.items = e :: items) (hbounds : InBounds least most) :
      Change cs st { st with items := .repeated e least most greedy :: items }

theorem change_of_enterNamed (hst : st.enterNamed left = .ok (st', cs)) {text : List Char} :
    Change text st st' := by
  obtain ⟨⟨name, rest⟩, -, hst⟩ := bind_eq_ok_iff.mp hst
  simp only at hst
  split at hst
  · cases hst
  · split at hst
    · cases hst
    · obtain ⟨rfl, -⟩ := Prod.mk.inj (Except.ok.inj hst)
      exact .capture _ _

theorem change_of_openGroup (hst : st.openGroup cs = .ok (st', left)) : Change cs st st' := by
  unfold State.openGroup at hst
  have hskip := skip_suffix st.verbose cs
  simp only at hst
  split at hst
  · cases hst
  · split at hst
    · exact change_of_enterNamed hst
    · split at hst
      · exact change_of_enterNamed hst
      · split at hst
        · rename_i letters hquestion
          have hletters : letters <:+ cs := (List.suffix_cons '?' letters).trans (hquestion ▸ hskip)
          split at hst
          · cases hst
          · obtain ⟨⟨change, closer, rest⟩, hflags, hst⟩ := bind_eq_ok_iff.mp hst
            simp only at hst
            split at hst
            · split at hst
              · cases hst
              · obtain ⟨rfl, -⟩ := Prod.mk.inj (Except.ok.inj hst)
                exact .flags hletters hflags
            · obtain ⟨rfl, -⟩ := Prod.mk.inj (Except.ok.inj hst)
              exact .plain hletters hflags
        · obtain ⟨rfl, -⟩ := Prod.mk.inj (Except.ok.inj hst)
          exact .capture none st.names

theorem change_of_closeGroup (hst : st.closeGroup = .ok st') : Change cs st st' := by
  rw [State.closeGroup] at hst
  split at hst
  · cases hst
  · rename_i level outer houter
    obtain rfl := Except.ok.inj hst
    exact .close houter

theorem change_of_repeatLast (hbounds : InBounds least most)
    (hst : st.repeatLast least most greedy = .ok st') : Change cs st st' := by
  rw [State.repeatLast] at hst
  split at hst
  · cases hst
  · rename_i e items hitems
    split at hst
    · cases hst
    · obtain rfl := Except.ok.inj hst
      exact .repeated hitems hbounds

theorem change_of_repeatSign (hbounds : InBounds least most)
    (hst : st.repeatSign least most cs = .ok (st', left)) : Change cs st st' := by
  unfold State.repeatSign at hst
  split at hst
  all_goals
    obtain ⟨st'', hst'', hst⟩ := bind_eq_ok_iff.mp hst
    obtain ⟨rfl, -⟩ := Prod.mk.inj (Except.ok.inj hst)
    exact change_of_repeatLast hbounds hst''

theorem change_of_repeatCounted (hst : st.repeatCounted cs = .ok (st', left)) :
    Change cs st st' := by
  unfold State.repeatCounted at hst
  split at hst
  · cases hst
  · split at hst
    · cases hst
    · split at hst
      · cases hst
      · obtain ⟨⟨⟨least, most⟩, rest⟩, -, hst⟩ := bind_eq_ok_iff.mp hst
        simp only at hst
        split at hst
        · split at hst
          · cases hst
          · rename_i hbounds
            obtain ⟨st'', hst'', hst⟩ := bind_eq_ok_iff.mp hst
            obtain ⟨rfl, -⟩ := Prod.mk.inj (Except.ok.inj hst)
            refine change_of_repeatLast (fun m hm => ?_) hst''
            subst hm
            simpa using hbounds
        · cases hst

/-- **Each step makes one of the changes.** -/
theorem change_of_step (hst : st.step c cs = .ok (st', left)) : Change cs st st' := by
  unfold State.step at hst
  split at hst
  · exact change_of_openGroup hst
  · obtain ⟨st'', hst'', hst⟩ := bind_eq_ok_iff.mp hst
    obtain ⟨rfl, -⟩ := Prod.mk.inj (Except.ok.inj hst)
    exact change_of_closeGroup hst''
  · obtain ⟨rfl, -⟩ := Prod.mk.inj (Except.ok.inj hst)
    exact .branch
  · obtain ⟨⟨e, rest⟩, he, hst⟩ := bind_eq_ok_iff.mp hst
    obtain ⟨rfl, -⟩ := Prod.mk.inj (Except.ok.inj hst)
    obtain ⟨⟨level, inner⟩, -, he⟩ := bind_eq_ok_iff.mp he
    obtain ⟨⟨level', outside⟩, -, he⟩ := bind_eq_ok_iff.mp he
    obtain ⟨rfl, -⟩ := Prod.mk.inj (Except.ok.inj he)
    exact .bracket _ _
  · exact change_of_repeatSign (fun m _ => Nat.zero_le m) hst
  · exact change_of_repeatSign (fun m _ => Nat.zero_le m) hst
  · exact change_of_repeatSign (by rintro m ⟨⟩) hst
  · exact change_of_repeatCounted hst
  · obtain ⟨⟨a, rest⟩, -, hst⟩ := bind_eq_ok_iff.mp hst
    obtain ⟨rfl, -⟩ := Prod.mk.inj (Except.ok.inj hst)
    exact .atom a

end State

end Reader

end Pattern

end LogSift
