import Mathlib.Data.List.Infix
import LogSift.Proofs.Pattern.Captures
import LogSift.Proofs.Pattern.Whole
/-!
# Groups are numbered as they are opened

The reader comes to one unit after the other (`State.units`). A unit that
opens a capturing group puts it behind the groups that stand already, with
the next number, and no other unit adds or removes one (`State.Opens`). So
the groups of a pattern have the numbers from one on, and their names are
those that the units gave them (`Expr.names_of_read`).
-/


namespace LogSift

namespace Pattern

open Reader (GroupKind Level State skip)

variable {source cs left rest : List Char} {c : Char} {e : Expr} {n : Nat}

namespace Expr

theorem groups_ofItems (items : List Expr) :
    (ofItems items).groups = items.reverse.flatMap groups := by
  cases items with
  | nil => rfl
  | cons last items =>
    rw [ofItems]
    induction items generalizing last with
    | nil => simp
    | cons e items ih => simp [ih (seq e last), groups]

theorem groups_ofBranches (branches : List Expr) :
    (ofBranches branches).groups = branches.reverse.flatMap groups := by
  cases branches with
  | nil => rfl
  | cons last branches =>
    rw [ofBranches]
    induction branches generalizing last with
    | nil => simp
    | cons e branches ih => simp [ih (alt e last), groups]

end Expr

namespace Reader

/-- The group of an open parenthesis, if it captures. -/
def GroupKind.captured? : GroupKind → Option (Nat × Option String)
  | capture index name => some (index, name)
  | plain _ => none

/-- The groups that wait around an open parenthesis, and its own behind them. -/
def Level.groups (l : Level) : List (Nat × Option String) :=
  l.branches.reverse.flatMap Expr.groups ++ l.items.reverse.flatMap Expr.groups ++
    l.kind.captured?.toList

namespace State

variable {st st' : State}

/-- The groups read so far. -/
def groups (st : State) : List (Nat × Option String) :=
  st.outer.reverse.flatMap Level.groups ++ st.branches.reverse.flatMap Expr.groups ++
    st.items.reverse.flatMap Expr.groups

/-- The group that has been opened from one state to the next. -/
def opened? (st st' : State) : Option (Nat × Option String) :=
  if st.captures < st'.captures then st'.outer.head?.bind (·.kind.captured?) else none

/-- What is left of the text at each unit that the reader comes to, and the name of the group that
the unit opens. -/
def units : Nat → State → List Char → List (List Char × Option String)
  | 0, _, _ => []
  | n + 1, st, cs =>
    match skip st.verbose cs with
    | [] => []
    | c :: rest =>
      match st.step c rest with
      | .error _ => []
      | .ok (next, left) => (c :: rest, (st.opened? next).bind (·.2)) :: units n next left

/-! ## Steps -/

/-- **A step opens one group, with the next number, or leaves the groups as they are.** -/
inductive Opens (st st' : State) : Prop
  | none (captures : st'.captures = st.captures) (groups : st'.groups = st.groups)
  | one (name : Option String) (captures : st'.captures = st.captures + 1)
      (innermost : st'.outer.head?.bind (·.kind.captured?) = some (st.captures + 1, name))
      (groups : st'.groups = st.groups ++ [(st.captures + 1, name)])

theorem groups_expr (st : State) : st.expr.groups =
    st.branches.reverse.flatMap Expr.groups ++ st.items.reverse.flatMap Expr.groups := by
  rw [expr]
  split
  · rename_i hnone
    rw [List.isEmpty_iff.mp hnone, Expr.groups_ofItems]
    rfl
  · rw [Expr.groups_ofBranches, List.reverse_cons, List.flatMap_append, List.flatMap_singleton,
      Expr.groups_ofItems]

theorem groups_enter (st : State) (kind : GroupKind) (verbose : Bool) :
    (st.enter kind verbose).groups = st.groups ++ kind.captured?.toList := by
  simp [groups, enter, Level.groups]

/-- A unit without a group. -/
theorem opens_add (he : e.groups = []) (verbose : Bool) :
    st.Opens { st with items := e :: st.items, verbose } :=
  .none rfl (by simp [groups, he])

theorem opens_step (hst : st.step c cs = .ok (st', left)) : st.Opens st' := by
  cases change_of_step hst with
  | atom | bracket | flags => exact opens_add rfl _
  | plain => exact .none rfl ((groups_enter _ _ _).trans (List.append_nil _))
  | capture name names => exact .one name rfl rfl (groups_enter _ _ _)
  | @close level outer houter =>
    -- the groups of the level move into its expression, behind its own number
    refine .none rfl ?_
    cases hkind : level.kind <;>
      simp [groups, houter, hkind, Level.groups, GroupKind.captured?, Expr.groups, groups_expr]
  | branch => exact .none rfl (by simp [groups, Expr.groups_ofItems])
  | repeated hitems => exact .none rfl (by simp [groups, hitems, Expr.groups])

/-- What is left after a step is at the end of the text. -/
theorem suffix_of_step (hst : st.step c cs = .ok (st', left)) : left <:+ cs :=
  (step_reads closing_closing st c cs _ _ hst).1

/-! ## Runs -/

/-- **The groups have the numbers from one on.** -/
def Numbered (st : State) : Prop := st.groups.map (·.1) = List.range' 1 st.captures

theorem numbered_start : start.Numbered := rfl

/-- A step gives the group that it opens the next number. -/
theorem Numbered.step (h : st.Numbered) (hst : st.step c cs = .ok (st', left)) :
    st'.Numbered := by
  rw [Numbered] at h ⊢
  cases opens_step hst with
  | none hcaptures hgroups => rw [hgroups, hcaptures, h]
  | one name hcaptures _ hgroups =>
    rw [hgroups, hcaptures, List.map_append, h, List.range'_concat, Nat.one_mul, Nat.add_comm 1]
    rfl

/-- What a step adds to the names is the name of the group it opens. -/
theorem names_step (hst : st.step c cs = .ok (st', left)) :
    st'.groups.filterMap (·.2) =
      st.groups.filterMap (·.2) ++ ((st.opened? st').bind (·.2)).toList := by
  rw [opened?]
  cases opens_step hst with
  | none hcaptures hgroups =>
    rw [hgroups, if_neg (by omega)]
    exact (List.append_nil _).symm
  | one name hcaptures hinnermost hgroups =>
    rw [hgroups, if_pos (by omega), hinnermost, List.filterMap_append]
    cases name <;> rfl

/-- **A run adds the names that its units give**, in their order. -/
theorem Numbered.run (h : st.Numbered) (hst : st.run n cs = .ok st') :
    st'.Numbered ∧ st'.groups.filterMap (·.2) =
      st.groups.filterMap (·.2) ++ (units n st cs).filterMap (·.2) := by
  induction n generalizing st cs with
  | zero =>
    obtain rfl := Except.ok.inj hst
    exact ⟨h, (List.append_nil _).symm⟩
  | succ n ih =>
    rw [State.run] at hst
    rw [units]
    rcases hskip : skip st.verbose cs with _ | ⟨c, rest⟩
    · rw [hskip] at hst
      obtain rfl := Except.ok.inj hst
      exact ⟨h, (List.append_nil _).symm⟩
    · rw [hskip] at hst
      obtain ⟨⟨next, left⟩, hstep, hst⟩ := bind_eq_ok_iff.mp hst
      obtain ⟨hnumbered, hnames⟩ := ih (h.step hstep) hst
      refine ⟨hnumbered, ?_⟩
      rw [hnames, names_step hstep]
      simp only [hstep]
      cases hname : (st.opened? next).bind (·.2) <;> simp

theorem tails_sublist {cs cs' : List Char} (h : cs <:+ cs') : cs.tails.Sublist cs'.tails := by
  obtain ⟨front, rfl⟩ := h
  induction front with
  | nil => exact List.Sublist.refl _
  | cons c front ih =>
    rw [List.cons_append, List.tails_cons]
    exact ih.cons _

/-- The reader comes to places of the text, one behind the other. -/
theorem units_sublist (n : Nat) (st : State) (cs : List Char) :
    ((units n st cs).map (·.1)).Sublist cs.tails := by
  induction n generalizing st cs with
  | zero => exact List.nil_sublist _
  | succ n ih =>
    rw [units]
    rcases hskip : skip st.verbose cs with _ | ⟨c, rest⟩
    · exact List.nil_sublist _
    · have hrest : (c :: rest).tails.Sublist cs.tails :=
        tails_sublist (hskip ▸ skip_suffix st.verbose cs)
      rcases hstep : st.step c rest with f | ⟨next, left⟩
      · simp only [hstep]
        exact List.nil_sublist _
      · simp only [hstep]
        refine List.Sublist.trans ?_ hrest
        rw [List.map_cons, List.tails_cons]
        exact ((ih next left).trans (tails_sublist (suffix_of_step hstep))).cons_cons _

/-- The units that the reader comes to up to the end of the text, and the state there. -/
structure ReadsTo (n : Nat) (st : State) (cs : List Char)
    (comesTo : List (List Char × Option String)) (last : State) : Prop where
  run : st.run n cs = .ok last
  units : State.units n st cs = comesTo

variable {next last : State} {comesTo : List (List Char × Option String)} {name : Option String}

theorem ReadsTo.nil (n : Nat) (st : State) : ReadsTo n st [] [] st := by
  refine ⟨run_nil n st, ?_⟩
  cases n with
  | zero => rfl
  | succ n =>
    rw [State.units]
    cases st.verbose <;> rfl

/-- One more unit before the others. -/
theorem ReadsTo.cons (hskip : skip st.verbose cs = c :: rest)
    (hstep : st.step c rest = .ok (next, left)) (hname : (st.opened? next).bind (·.2) = name)
    (h : ReadsTo n next left comesTo last) :
    ReadsTo (n + 1) st cs ((c :: rest, name) :: comesTo) last := by
  refine ⟨(run_of_skip_cons hskip hstep).trans h.run, ?_⟩
  rw [State.units, hskip]
  simp only [hstep, h.units, hname]

end State

end Reader

/-! ## What is read -/

/-- What is left of a source at each unit, and the name of the group that is opened there. -/
def units (source : List Char) : List (List Char × Option String) :=
  State.units (source.length + 1) State.start source

/-- **The groups of a pattern that is read have the numbers from one on, and the names that the
units give them.** -/
theorem Expr.groups_of_read (he : Expr.read source = .ok e) :
    (∃ k, e.groups.map (·.1) = List.range' 1 k) ∧
      e.groups.filterMap (·.2) = (Pattern.units source).filterMap (·.2) := by
  obtain ⟨st, hrun, houter, rfl, -⟩ := run_of_read he
  have hgroups : st.groups = st.expr.groups := by
    rw [State.groups_expr, State.groups, houter]
    rfl
  obtain ⟨hnumbered, hnames⟩ := State.numbered_start.run hrun
  rw [hgroups] at hnames
  exact ⟨⟨st.captures, hgroups ▸ hnumbered⟩, hnames⟩

end Pattern

end LogSift
