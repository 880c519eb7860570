import Mathlib.Tactic.SplitIfs
import LogSift.Proofs.Pattern.Whole
/-!
# What a fault finds not closed

Three faults are about something that is opened and not closed: a group, a
bracketed class or a counted repetition. A step of the reader fails with one
of them only where the unit it reads starts with that opener
(`State.blames_step`), and the meaning of what is read never does. So what
is not closed is the unit at which the reader stops, or a group that is
open at the end of the source (`read_of_opener`).
-/


namespace LogSift

namespace Pattern

variable {α β : Type} {opener c : Char} {v : Bool} {n : Nat} {cs rest : List Char}

/-- The opening delimiter of what a fault finds not closed. -/
def Fault.opener? : Fault → Option Char
  | groupUnclosed => some '('
  | classUnclosed => some '['
  | countUnclosed => some '\x7b'
  | _ => none

/-- **A computation blames an opener**: if it fails, then for what that opens, or not for an
opener at all. -/
def Blames (opener : Char) (x : Except Fault α) : Prop :=
  ∀ f, x = .error f → f.opener? = none ∨ f.opener? = some opener

namespace Blames

theorem ok (a : α) : Blames opener (.ok a : Except Fault α) := by
  rintro f ⟨⟩

theorem error {f : Fault} (hf : f.opener? = none ∨ f.opener? = some opener) :
    Blames opener (.error f : Except Fault α) := by
  rintro f' ⟨⟩
  exact hf

/-- A fault that is not about an opener. -/
theorem other {f : Fault} (hf : f.opener? = none) : Blames opener (.error f : Except Fault α) :=
  error (.inl hf)

theorem bind {x : Except Fault α} {g : α → Except Fault β} (hx : Blames opener x)
    (hg : ∀ a, Blames opener (g a)) : Blames opener (x >>= g) := by
  intro f hf
  cases x with
  | error f' =>
    obtain rfl := Except.error.inj hf
    exact hx f' rfl
  | ok a => exact hg a f hf

end Blames

/-- What blames every opener alike fails for none. -/
theorem opener?_eq_none {x : Except Fault α} {f : Fault} (hx : ∀ opener, Blames opener x)
    (hf : x = .error f) : f.opener? = none := by
  rcases hx '(' f hf with h | h
  · exact h
  · rcases hx '[' f hf with h' | h'
    · exact h'
    · cases h.symm.trans h'

namespace Reader

/-! ## Escapes -/

theorem blames_hexFixed (n value : Nat) (cs : List Char) :
    Blames opener (hexFixed v n value cs) := by
  induction n generalizing value cs with
  | zero => exact .ok _
  | succ n ih =>
    cases cs with
    | nil => exact .other rfl
    | cons c rest =>
      rw [hexFixed]
      split
      · exact ih _ _
      · exact .other rfl

theorem blames_hexBraced (n : Nat) (value : Option Nat) (cs : List Char) :
    Blames opener (hexBraced v n value cs) := by
  induction n generalizing value cs with
  | zero => exact .other rfl
  | succ n ih =>
    cases cs with
    | nil => exact .other rfl
    | cons c rest =>
      rw [hexBraced]
      split
      · exact .ok _
      · split
        · exact ih _ _
        · exact .other rfl

theorem blames_hex (width : Nat) (cs : List Char) : Blames opener (hex v width cs) := by
  rw [hex]
  split
  · exact .other rfl
  · split
    · refine .bind (blames_hexBraced _ _ _) ?_
      rintro ⟨value, left⟩
      cases value with
      | none => exact .other rfl
      | some n =>
        simp only
        split
        · exact .ok _
        · exact .other rfl
    · refine .bind (blames_hexFixed _ _ _) ?_
      rintro ⟨n, left⟩
      simp only
      split
      · exact .ok _
      · exact .other rfl

theorem blames_property (negated : Bool) (cs : List Char) :
    Blames opener (property v negated cs) := by
  rw [property]
  split
  · exact .other rfl
  · split
    · split
      · exact .other rfl
      · exact .ok _
    · split
      · exact .other rfl
      · exact .ok _

theorem blames_boundary (cs : List Char) : Blames opener (boundary v cs) := by
  unfold boundary
  split
  · split
    · exact .other rfl
    · split
      · simp only
        split
        · split_ifs
          all_goals first
            | exact .ok _
            | exact .other rfl
        · exact .other rfl
      · exact .ok _
  · exact .ok _

theorem blames_escape (cs : List Char) : Blames opener (escape v cs) := by
  cases cs with
  | nil => exact .other rfl
  | cons c rest =>
    unfold escape
    simp only
    split
    · exact .other rfl
    · split
      · exact .ok _
      · split
        all_goals first
          | exact .ok _
          | exact .other rfl
          | exact blames_hex _ _
          | exact blames_property _ _
          | exact blames_boundary _

theorem blames_atom (c : Char) (rest : List Char) : Blames opener (atom v c rest) := by
  rw [atom]
  split_ifs
  · exact blames_escape _
  all_goals exact .ok _

/-! ## Classes -/

theorem blames_leadingDashes (n : Nat) (members : List ClassSet) (cs : List Char) :
    Blames '[' (leadingDashes v n members cs) := by
  induction n generalizing members cs with
  | zero => exact .error (.inr rfl)
  | succ n ih =>
    cases cs with
    | nil => exact .error (.inr rfl)
    | cons c rest =>
      rw [leadingDashes]
      split
      · exact ih _ _
      · exact .ok _

theorem blames_openClass (cs : List Char) : Blames '[' (openClass v cs) := by
  unfold openClass
  split
  · exact .error (.inr rfl)
  · refine .bind (blames_leadingDashes _ _ _) ?_
    rintro ⟨members, left⟩
    simp only
    split
    · split
      · exact .error (.inr rfl)
      · exact .ok _
    · exact .ok _

theorem blames_classAtom (c : Char) (rest : List Char) : Blames opener (classAtom v c rest) := by
  rw [classAtom]
  split
  · exact blames_escape _
  · exact .ok _

theorem blames_member (a : Atom) : Blames opener (member a) := by
  cases a
  all_goals first
    | exact .ok _
    | exact .other rfl

theorem blames_rangeEnd (a : Atom) : Blames opener (rangeEnd a) := by
  cases a
  all_goals first
    | exact .ok _
    | exact .other rfl

theorem blames_classRange (c : Char) (rest : List Char) : Blames '[' (classRange v c rest) := by
  refine .bind (blames_classAtom _ _) ?_
  rintro ⟨first, left⟩
  simp only
  split
  · exact .error (.inr rfl)
  · split
    · exact .bind (blames_member _) fun _ => .ok _
    · split
      · exact .error (.inr rfl)
      · refine .bind (blames_classAtom _ _) ?_
        rintro ⟨last, left⟩
        refine .bind (blames_rangeEnd _) fun lo => ?_
        refine .bind (blames_rangeEnd _) fun hi => ?_
        simp only
        split
        · exact .ok _
        · exact .other rfl

theorem blames_classLoop (n : Nat) (level : ClassLevel) (outer : List ClassLevel)
    (cs : List Char) : Blames '[' (classLoop v n level outer cs) := by
  induction n generalizing level outer cs with
  | zero => exact .error (.inr rfl)
  | succ n ih =>
    unfold classLoop
    split
    · exact .error (.inr rfl)
    · split
      · exact ih _ _ _
      · exact .bind (blames_openClass _) fun _ => ih _ _ _
    · split
      · exact .ok _
      · exact ih _ _ _
    · exact ih _ _ _
    · exact ih _ _ _
    · exact ih _ _ _
    · exact .bind (blames_classRange _ _) fun _ => ih _ _ _

theorem blames_bracket (cs : List Char) : Blames '[' (bracket v cs) := by
  refine .bind (blames_openClass _) fun _ => ?_
  exact .bind (blames_classLoop _ _ _ _) fun _ => .ok _

/-! ## Numbers and groups -/

theorem blames_count (cs : List Char) : Blames opener (count v cs).1 := by
  rw [count]
  simp only
  split
  · exact .other rfl
  · split
    · exact .ok _
    · exact .other rfl

theorem blames_flags (negated dangling : Bool) (change : FlagChange) (cs : List Char) :
    Blames opener (flags negated dangling change cs) := by
  induction cs generalizing negated dangling change with
  | nil => exact .other rfl
  | cons c rest ih =>
    rw [flags]
    split
    · split
      · exact .other rfl
      · exact .ok _
    · split
      · split
        · exact .other rfl
        · exact ih _ _ _
      · split
        · exact .other rfl
        · split
          · exact .other rfl
          · exact ih _ _ _

theorem blames_groupName (name cs : List Char) : Blames opener (groupName name cs) := by
  induction cs generalizing name with
  | nil => exact .other rfl
  | cons c rest ih =>
    rw [groupName]
    split
    · exact .ok _
    · split
      · exact ih _
      · exact .other rfl

namespace State

variable {st : State}

theorem blames_enterNamed (cs : List Char) : Blames opener (st.enterNamed cs) := by
  refine .bind (blames_groupName _ _) ?_
  rintro ⟨name, left⟩
  simp only
  split
  · exact .other rfl
  · split
    · exact .other rfl
    · exact .ok _

theorem blames_openGroup (cs : List Char) : Blames '(' (st.openGroup cs) := by
  unfold openGroup
  simp only
  split
  · exact .other rfl
  · split
    · exact blames_enterNamed _
    · split
      · exact blames_enterNamed _
      · split
        · split
          · exact .error (.inr rfl)
          · refine .bind (blames_flags _ _ _ _) ?_
            rintro ⟨change, closer, left⟩
            simp only
            split
            · split
              · exact .other rfl
              · exact .ok _
            · exact .ok _
        · exact .ok _

theorem blames_closeGroup : Blames opener st.closeGroup := by
  rw [closeGroup]
  split
  · exact .other rfl
  · exact .ok _

/-! ## Repetitions -/

theorem blames_repeatLast (least : Nat) (most : Option Nat) (greedy : Bool) :
    Blames opener (st.repeatLast least most greedy) := by
  rw [repeatLast]
  split
  · exact .other rfl
  · split
    · exact .other rfl
    · exact .ok _

theorem blames_repeatSign (least : Nat) (most : Option Nat) (cs : List Char) :
    Blames opener (st.repeatSign least most cs) := by
  unfold repeatSign
  split
  all_goals exact .bind (blames_repeatLast _ _ _) fun _ => .ok _

theorem blames_bounds (cs : List Char) : Blames '\x7b' (bounds v cs) := by
  unfold bounds
  simp only
  split
  · exact .error (.inr rfl)
  · split
    · exact .error (.inr rfl)
    · exact .bind (blames_count _) fun _ => .ok _
    · refine .bind (blames_count _) fun _ => ?_
      exact .bind (blames_count _) fun _ => .ok _
  · exact .bind (blames_count _) fun _ => .ok _

theorem blames_repeatCounted (cs : List Char) : Blames '\x7b' (st.repeatCounted cs) := by
  unfold repeatCounted
  split
  · exact .other rfl
  · split
    · exact .other rfl
    · split
      · exact .error (.inr rfl)
      · refine .bind (blames_bounds _) ?_
        rintro ⟨⟨least, most⟩, left⟩
        simp only
        split
        · split
          · exact .other rfl
          · exact .bind (blames_repeatLast _ _ _) fun _ => .ok _
        · exact .error (.inr rfl)

/-- **A step blames what its unit starts with.** -/
theorem blames_step (c : Char) (rest : List Char) : Blames c (st.step c rest) := by
  unfold step
  split
  · exact blames_openGroup _
  · exact .bind blames_closeGroup fun _ => .ok _
  · exact .ok _
  · exact .bind (blames_bracket _) fun _ => .ok _
  · exact blames_repeatSign _ _ _
  · exact blames_repeatSign _ _ _
  · exact blames_repeatSign _ _ _
  · exact blames_repeatCounted _
  · exact .bind (blames_atom _ _) fun _ => .ok _

end State

end Reader

/-! ## Meaning -/

namespace Mode

variable {m : Mode}

theorem blames_finish (negated : Bool) (s : CharSet) : Blames opener (m.finish negated s) := by
  rw [finish]
  split_ifs
  all_goals first
    | exact .ok _
    | exact .other rfl

theorem blames_literal (l : Literal) : Blames opener (m.literal l) := by
  rw [literal]
  split
  · exact .other rfl
  · exact .ok _

theorem blames_classLiteral (l : Literal) : Blames opener (m.classLiteral l) := by
  refine .bind (blames_literal l) fun n => ?_
  split
  · exact .other rfl
  · exact .ok _

theorem blames_perl (kind : PerlClass) (negated : Bool) : Blames opener (m.perl kind negated) := by
  rw [perl]
  split_ifs
  all_goals first
    | exact .ok _
    | exact .other rfl

theorem blames_property (query : Unicode.Query) (negated : Bool) :
    Blames opener (m.property query negated) := by
  rw [property]
  split
  · split
    · exact blames_finish _ _
    · exact .other rfl
    · exact .other rfl
  · exact .other rfl

theorem blames_classSet (s : ClassSet) : Blames opener (m.classSet s) := by
  induction s with
  | empty => exact .ok _
  | literal l => exact .bind (blames_classLiteral l) fun _ => .ok _
  | range first last =>
    exact .bind (blames_classLiteral _) fun _ => .bind (blames_classLiteral _) fun _ => .ok _
  | ascii kind negated => exact blames_finish _ _
  | perl kind negated => exact blames_perl _ _
  | unicode query negated => exact blames_property _ _
  | nested negated inner ih => exact .bind ih fun _ => blames_finish _ _
  | both a b iha ihb => exact .bind iha fun _ => .bind ihb fun _ => .ok _
  | op kind a b iha ihb => exact .bind iha fun _ => .bind ihb fun _ => .ok _

theorem blames_dot : Blames opener m.dot := by
  rw [dot]
  split
  · exact .other rfl
  · split_ifs
    all_goals exact .ok _

theorem blames_atom (a : Atom) : Blames opener (m.atom a) := by
  cases a with
  | literal l => exact .bind (blames_literal l) fun _ => .ok _
  | dot => exact .bind blames_dot fun _ => .ok _
  | assertion a => exact .ok _
  | perl kind negated => exact .bind (blames_perl _ _) fun _ => .ok _
  | unicode query negated => exact .bind (blames_property _ _) fun _ => .ok _

end Mode

/-- What is read has been closed: its meaning blames no opener. -/
theorem Expr.blames_meaning (e : Expr) (m : Mode) : Blames opener (e.meaning m) := by
  induction e generalizing m with
  | empty => exact .ok _
  | flags change => exact .ok _
  | atom a => exact .bind (Mode.blames_atom a) fun _ => .ok _
  | bracket negated s =>
    exact .bind (Mode.blames_classSet s) fun _ => .bind (Mode.blames_finish _ _) fun _ => .ok _
  | repeated e least most greedy ih => exact .bind (ih _) fun _ => .ok _
  | capture index name e ih => exact .bind (ih _) fun _ => .ok _
  | group change e ih => exact .bind (ih _) fun _ => .ok _
  | seq a b iha ihb => exact .bind (iha _) fun _ => .bind (ihb _) fun _ => .ok _
  | alt a b iha ihb => exact .bind (iha _) fun _ => .bind (ihb _) fun _ => .ok _

/-! ## Sources -/

variable {source : List Char} {f : Fault}

/-- What has been read is refused for no opener. -/
theorem blames_compile {e : Expr} (hread : Expr.read source = .ok e) :
    Blames opener (compile source) := by
  rw [compile, node, hread]
  refine .bind (.bind (.ok e) fun e => .bind (e.blames_meaning _) ?_) fun _ => .ok _
  rintro ⟨n, m⟩
  simp only
  split
  · exact .ok _
  · exact .other rfl

/-- What is not closed is found in reading. -/
theorem read_of_opener (hf : compile source = .error f) (hopener : f.opener? = some opener) :
    Expr.read source = .error f := by
  cases hread : Expr.read source with
  | error f' =>
    rw [compile, node, hread] at hf
    exact congrArg _ (Except.error.inj hf)
  | ok e => cases (opener?_eq_none (fun _ => blames_compile hread) hf).symm.trans hopener

/-- **What is not closed** is the unit that the reader fails at, or a group that is open where it
ends. -/
theorem run_of_opener (hf : compile source = .error f) (hopener : f.opener? = some opener) :
    Reader.State.start.run (source.length + 1) source = .error f ∨
      opener = '(' ∧ ∃ st : Reader.State,
        Reader.State.start.run (source.length + 1) source = .ok st ∧ st.outer ≠ [] := by
  have hread := read_of_opener hf hopener
  rw [read_eq] at hread
  cases hrun : Reader.State.start.run (source.length + 1) source with
  | error f' =>
    rw [hrun] at hread
    exact .inl (congrArg _ (Except.error.inj hread))
  | ok st =>
    rw [hrun] at hread
    change finish st = .error f at hread
    rw [finish] at hread
    split at hread
    · split at hread
      · cases hread
      · obtain rfl := Except.error.inj hread
        cases hopener
    · rename_i houter
      obtain rfl := Except.error.inj hread
      refine .inr ⟨(Option.some.inj hopener).symm, st, rfl, ?_⟩
      rintro hnil
      exact houter (List.isEmpty_iff.mpr hnil)

end Pattern

end LogSift
