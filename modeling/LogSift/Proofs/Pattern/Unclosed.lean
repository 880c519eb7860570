import LogSift.Proofs.Pattern.Blame
import LogSift.Proofs.Pattern.Kind
import LogSift.Proofs.Pattern.Openers
import LogSift.Proofs.Pattern.Reading
/-!
# Which unclosed delimiter is told

Where the reader stops, the groups that are open are not closed, nor is the
unit at which it fails (`openings`). The place that is told is looked for
plainly, without regard to units, so that what is not closed may go untold
(`not_opening_told`). If each part of the source closes what it opens, the
delimiters that are found open so are those of the reading
(`Reading.unclosed?_eq`). Then the first of those that are not closed is
told, and the compiler objects to the last one (`first_opening_told`).
-/


namespace LogSift

namespace Pattern

open Rejection (delimiters LeavesOpen openBehind? unclosed? openDelimiter?)
open Reader (Reading State)
open Text (byteLength)

variable {source : List Char} {f : Fault} {opener : Char} {n : Nat} {d : Char × Char}

namespace Reader

namespace Reading

variable {r : Reading} {st : State} {left rest : List Char} {c : Char}

/-! ## Parts -/

/-- The places of the groups that are open, if those are opened by the delimiter. -/
def around (r : Reading) (opener : Char) : List Nat :=
  if opener = '(' then r.groups.map byteLength else []

/-- The places of the units that are not closed and are opened by the delimiter. -/
def waiting (r : Reading) (opener : Char) : List Nat :=
  (r.openings.filter (·.1 = opener)).map fun o => byteLength o.2

/-- The parts of a source: what stands between the units, and the units without the parentheses
of groups, each with whether groups are open around it that are opened by the delimiter. -/
def parts (opener : Char) : Nat → Reading → List (Bool × List Char)
  | 0, _ => []
  | n + 1, r =>
    (!(r.around opener).isEmpty, r.blank) ::
      match r.next? with
      | none => []
      | some next => (!(next.around opener).isEmpty, r.inner next) :: parts opener n next

/-- A unit that closes what it opens, but for the parenthesis of a group, opens or closes that
group plainly. -/
theorem leavesOpen_behind (hd : d ∈ delimiters)
    (h : LeavesOpen d.1 d.2 r.place (r.around d.1)) (hahead : r.ahead = c :: rest)
    (hstep : r.state.step c rest = .ok (st, left))
    (hinner : openBehind? d.1 d.2 (!((r.behind st left).around d.1).isEmpty) 0 false
      (r.inner (r.behind st left)) = some (0, false)) :
    LeavesOpen d.1 d.2 (r.behind st left).front ((r.behind st left).around d.1) := by
  simp only [delimiters, List.mem_cons, List.not_mem_nil, or_false] at hd
  cases effect_of_step hahead hstep with
  | opens houter hbehind hinner' =>
    have hpush := h.push (c := '(') (by decide)
    rw [hinner', hbehind] at hinner
    rw [hbehind]
    refine LeavesOpen.append ?_ hinner
    -- the parenthesis counts where parentheses are looked for, and is any character elsewhere
    rcases hd with rfl | rfl | rfl
    all_goals exact hpush
  | closes houter hleft hbehind =>
    have hpush := h.push (c := ')') (by decide)
    rw [hbehind]
    rcases hd with rfl | rfl | rfl
    · change LeavesOpen '(' ')' _ (r.groups.tail.map byteLength)
      rw [List.map_tail]
      exact hpush
    all_goals exact hpush
  | keeps houter hbehind hinner' =>
    rw [hinner', hbehind] at hinner
    rw [hbehind]
    exact h.append hinner

/-- **Where the reader stops, the delimiters that are open are those of groups**, if each part
closes what it opens. -/
theorem leavesOpen_stop (hd : d ∈ delimiters) (h : LeavesOpen d.1 d.2 r.front (r.around d.1))
    (hn : r.left.length < n) (hparts : ∀ part ∈ r.parts d.1 n,
      openBehind? d.1 d.2 part.1 0 false part.2 = some (0, false)) :
    LeavesOpen d.1 d.2 (r.stop n).place ((r.stop n).around d.1) := by
  induction n generalizing r with
  | zero => exact absurd hn (Nat.not_lt_zero _)
  | succ n ih =>
    rw [parts, List.forall_mem_cons] at hparts
    obtain ⟨hblank, hparts⟩ := hparts
    have hplace : LeavesOpen d.1 d.2 r.place (r.around d.1) := h.append hblank
    rw [Reading.stop]
    cases r.ahead_cases with
    | nil _ hnext | error _ _ hnext =>
      rw [hnext]
      exact hplace
    | ok hahead hstep hnext =>
      rw [hnext] at hparts ⊢
      obtain ⟨hinner, hparts⟩ := List.forall_mem_cons.mp hparts
      have hlength := length_left_lt hahead hstep
      exact ih (leavesOpen_behind hd hplace hahead hstep hinner)
        (Nat.lt_of_lt_of_le hlength (Nat.le_of_lt_succ hn)) hparts

/-! ## What is not closed -/

/-- The groups that are open wait for parentheses. -/
theorem waiting_groups (r : Reading) (opener : Char) :
    ((r.groups.map fun g => ('(', g)).filter (·.1 = opener)).map (fun o => byteLength o.2) =
      r.around opener := by
  by_cases hopener : opener = '('
  · subst hopener
    simp [around, List.filter_map, Function.comp_def]
  · simp [around, List.filter_map, Function.comp_def, Ne.symm hopener, hopener]

/-- An opener is no backslash and closes nothing. -/
theorem opener_ne {closer : Char} (hc : (c, closer) ∈ delimiters) (hd : d ∈ delimiters) :
    c ≠ '\\' ∧ c ≠ d.2 := by
  simp only [delimiters, List.mem_cons, Prod.mk.injEq, List.not_mem_nil, or_false] at hc hd
  rcases hc with ⟨rfl, -⟩ | ⟨rfl, -⟩ | ⟨rfl, -⟩ <;> rcases hd with rfl | rfl | rfl <;> decide

/-- **Gone through plainly, a source has the delimiters open that are not closed.** -/
theorem unclosed?_eq (hd : d ∈ delimiters) (h : LeavesOpen d.1 d.2 r.place (r.around d.1))
    (hopener : ∀ c ∈ r.ahead.head?, ∃ closer, (c, closer) ∈ delimiters)
    (hbehind : ∃ behind ∈ openBehind? d.1 d.2 (!(r.waiting d.1).isEmpty) 0 false r.ahead.tail,
      behind.1 = 0 ∨ r.waiting d.1 ≠ []) :
    unclosed? d.1 d.2 [] false 0 (r.place ++ r.ahead) = (r.waiting d.1).getLast? := by
  obtain ⟨⟨n, escaped⟩, hrest, hn⟩ := hbehind
  rcases hahead : r.ahead with _ | ⟨c, rest⟩
  · rw [waiting, openings_of_nil hahead, waiting_groups]
    exact h.unclosed?_eq rfl (.inr rfl)
  · rw [hahead] at hrest hopener
    obtain ⟨closer, hc⟩ := hopener c rfl
    obtain ⟨hbackslash, hcloser⟩ := opener_ne hc hd
    have hpush : LeavesOpen d.1 d.2 (r.place ++ [c]) (r.waiting d.1) := by
      have hpush := h.push hbackslash
      rw [if_neg hcloser, ← waiting_groups] at hpush
      rw [waiting, openings_of_cons hahead, List.filter_cons]
      by_cases hkind : c = d.1
      · rw [if_pos hkind] at hpush
        rw [if_pos (decide_eq_true hkind), List.map_cons]
        exact hpush
      · rw [if_neg hkind] at hpush
        rw [if_neg (by simpa using hkind)]
        exact hpush
    rw [← List.singleton_append, ← List.append_assoc]
    exact hpush.unclosed?_eq hrest hn.symm

/-- A kind of delimiters is gone through, since no unit of an earlier kind is not closed. -/
def Reaches (r : Reading) (d : Char × Char) : Prop :=
  ∀ e ∈ delimiters.takeWhile (· ≠ d), r.waiting e.1 = []

instance (r : Reading) : DecidablePred r.Reaches := fun _ => List.decidableBAll _ _

/-- **The first of the delimiters that are not closed is the one that is found open**, if those of
the kinds that are gone through are. -/
theorem openDelimiter?_eq (hfound : ∀ d ∈ delimiters, r.Reaches d →
      unclosed? d.1 d.2 [] false 0 source = (r.waiting d.1).getLast?)
    (hopener : ∀ c ∈ r.ahead.head?, ∃ closer, (c, closer) ∈ delimiters)
    {first : Char × List Char} (hfirst : r.openings.getLast? = some first) :
    openDelimiter? source = some (.unclosedDelimiter first.1 (byteLength first.2)) := by
  have hlast : (r.waiting first.1).getLast? = some (byteLength first.2) := by
    obtain ⟨before, hopenings⟩ := List.getLast?_eq_some_iff.mp hfirst
    rw [waiting, hopenings, List.filter_append, List.map_append, List.filter_cons,
      if_pos (decide_eq_true rfl)]
    exact List.getLast?_concat
  have hparenthesis := hfound ('(', ')') (by decide) (by simp [Reaches, delimiters])
  rw [openDelimiter?, delimiters]
  simp only [List.findSome?_cons, hparenthesis]
  by_cases hkind : first.1 = '('
  · rw [← hkind, hlast]
    rfl
  · obtain ⟨hsingle, hhead⟩ := openings_eq_singleton hfirst hkind
    obtain ⟨closer, hc⟩ := hopener first.1 hhead
    have hother : ∀ opener, first.1 ≠ opener → r.waiting opener = [] := by
      intro opener hne
      rw [waiting, hsingle, List.filter_cons, if_neg (by simpa using hne)]
      rfl
    have hbracket := hfound ('[', ']') (by decide) (by simp [Reaches, delimiters, hother '(' hkind])
    rw [hother '(' hkind]
    simp only [delimiters, List.mem_cons, Prod.mk.injEq, List.not_mem_nil, or_false] at hc
    rcases hc with ⟨hc, -⟩ | ⟨hc, -⟩ | ⟨hc, -⟩
    · exact absurd hc hkind
    · rw [hc] at hlast ⊢
      simp only [hbracket, hlast]
      rfl
    · have hnone : r.waiting '[' = [] := hother '[' (by rw [hc]; decide)
      have hbrace := hfound ('\x7b', '\x7d') (by decide)
        (by simp [Reaches, delimiters, hother '(' hkind, hnone])
      rw [hc] at hlast ⊢
      simp only [hbracket, hbrace, hnone, hlast]
      rfl

end Reading

end Reader

/-! ## What is told -/

/-- Where the reader stops in a source. -/
def stopped (source : List Char) : Reading := (Reading.start source).stop (source.length + 1)

/-- **The units that are not closed** in a source that is refused because one is not, the last one
first: groups, and the class or the counted repetition that is being read, each by its opening
delimiter and by what stands before that. A class with all classes inside it is one unit. -/
def openings (source : List Char) : List (Char × List Char) := (stopped source).openings

/-- **Gone through plainly, the parts of a source leave the delimiters of one kind as they are**:
each part up to where the reader stops closes those that it opens, and none of a group
around it. Behind the unit at which the reader stops none is closed that is opened before, and
if there is none before none is left open. -/
def PlainIn (source : List Char) (d : Char × Char) : Prop :=
  (∀ part ∈ (Reading.start source).parts d.1 (source.length + 1),
    openBehind? d.1 d.2 part.1 0 false part.2 = some (0, false)) ∧
  ∃ behind ∈ openBehind? d.1 d.2 (!((stopped source).waiting d.1).isEmpty) 0 false
      (stopped source).ahead.tail,
    behind.1 = 0 ∨ (stopped source).waiting d.1 ≠ []

instance (source : List Char) : DecidablePred (PlainIn source) := fun d =>
  inferInstanceAs (Decidable ((∀ part ∈ (Reading.start source).parts d.1 (source.length + 1),
    openBehind? d.1 d.2 part.1 0 false part.2 = some (0, false)) ∧
    ∃ behind ∈ openBehind? d.1 d.2 (!((stopped source).waiting d.1).isEmpty) 0 false
        (stopped source).ahead.tail,
      behind.1 = 0 ∨ (stopped source).waiting d.1 ≠ []))

/-- **The delimiters of a source are delimiters to the reader**, too, as far as they are gone
through. -/
def Plain (source : List Char) : Prop :=
  ∀ d ∈ delimiters, (stopped source).Reaches d → PlainIn source d

instance : DecidablePred Plain := fun _ => List.decidableBAll _ _

/-- In a class a parenthesis is none to the reader. Gone through plainly, it closes the group around
the class, and it is found open in place of a group behind the class. -/
example :
    (¬ Plain "(a[)]".toList ∧ openings "(a[)]".toList = [('(', [])] ∧
      openDelimiter? "(a[)]".toList = none) ∧
    (¬ Plain "[(](a".toList ∧ openings "[(](a".toList = [('(', "[(]".toList)] ∧
      openDelimiter? "[(](a".toList = some (.unclosedDelimiter '(' 1)) := by
  decide +kernel

/-- **What is not closed need not be told**, not even where it is one group alone: if a class in the
group has a closing parenthesis, no delimiter is found open, and the diagnosis is told in place
of the opening one. -/
theorem not_opening_told : ¬ ∀ (source : String) (r : Rejection) (f : Fault) (opener : Char)
    (place : List Char), compile source.toList = .error f → f.opener? = some opener →
      openings source.toList = [(opener, place)] → ofSource source = .error r →
        r.kind = .unclosedDelimiter opener (byteLength place) := by
  intro h
  have hfault : compile "(a[)]".toList = .error .groupUnclosed := by rfl
  have hopenings : openings "(a[)]".toList = [('(', [])] := by decide +kernel
  have hr := ofSource_eq_error_iff.mpr ⟨_, _, .own hfault, rfl⟩
  have hkind : (Rejection.ofFault .groupUnclosed "(a[)]".toList "(a[)]".toList).kind =
      .syntaxError "error: unclosed group" := by decide +kernel
  have htold := h "(a[)]" _ _ _ _ hfault rfl hopenings hr
  cases htold.symm.trans hkind

theorem exists_closer (hopener : f.opener? = some opener) :
    ∃ closer, (opener, closer) ∈ delimiters := by
  cases f <;> cases hopener
  all_goals simp [delimiters]

/-- The report on an opener that is not closed says so. -/
theorem mentions_unclosed (hopener : f.opener? = some opener) (compiled : List Char) :
    Rejection.mentions (f.report compiled) "unclosed" = true := by
  rw [mentions_report (by decide), Bool.or_eq_true]
  refine .inl ?_
  let P (l : List Char) : Prop := speaksOf l "unclosed" = true
  change P f.diagnosis.toList
  cases f <;> cases hopener
  all_goals exact Fault.of_letters rfl (by decide +kernel)

/-- Where an opener is not closed, a delimiter that is found open is told. -/
theorem kind_of_opener (hopener : f.opener? = some opener) {kind : RejectionKind}
    (hkind : openDelimiter? source = some kind) (compiled : List Char) :
    (Rejection.ofFault f compiled source).kind = kind := by
  have hbig : f ≠ .tooBig := by
    rintro rfl
    cases hopener
  rw [Rejection.ofFault, if_neg hbig, Rejection.classify, if_pos (mentions_unclosed hopener _),
    hkind]

theorem follows_stopped (source : List Char) : (stopped source).Follows source :=
  (Reading.follows_start source).stop _

/-- The places that are found in a source whose delimiters are delimiters to the reader. -/
theorem unclosed?_of_plain (hplain : Plain source)
    (hopener : ∀ c ∈ (stopped source).ahead.head?, ∃ closer, (c, closer) ∈ delimiters)
    (hd : d ∈ delimiters) (hreaches : (stopped source).Reaches d) :
    unclosed? d.1 d.2 [] false 0 source = ((stopped source).waiting d.1).getLast? := by
  obtain ⟨hparts, hbehind⟩ := hplain d hd hreaches
  have hstart : LeavesOpen d.1 d.2 (Reading.start source).front
      ((Reading.start source).around d.1) := by
    rw [Reading.around, Reading.start, List.map_nil, ite_self]
    exact .nil
  have hleaves : LeavesOpen d.1 d.2 (stopped source).place ((stopped source).around d.1) :=
    Reading.leavesOpen_stop hd hstart (Nat.lt_succ_self _) hparts
  have hsource : (stopped source).place ++ (stopped source).ahead = source :=
    (Reading.place_append_ahead _).trans (follows_stopped source).source_eq
  rw [← Reading.unclosed?_eq hd hleaves hopener hbehind]
  exact congrArg _ hsource.symm

/-- **The compiler objects to the last unit that is not closed**, and only an opener can be ahead
where it does. -/
theorem head?_openings (hf : compile source = .error f) (hopener : f.opener? = some opener) :
    (∃ last, (openings source).head? = some (opener, last)) ∧
      ∀ c ∈ (stopped source).ahead.head?, ∃ closer, (c, closer) ∈ delimiters := by
  have hstop := Reading.run_stop (r := .start source) (Nat.lt_succ_self _)
  change (State.start.run (source.length + 1) source = .ok (stopped source).state ∧
    (stopped source).ahead = []) ∨ ∃ c rest f,
      State.start.run (source.length + 1) source = .error f ∧
        (stopped source).ahead = c :: rest ∧ (stopped source).state.step c rest = .error f at hstop
  rcases run_of_opener hf hopener with herror | ⟨rfl, st, hst, houter⟩
  · -- the reader fails at a unit that starts with the opener
    rcases hstop with ⟨hrun, -⟩ | ⟨c, rest, f', hrun, hahead, hstep⟩
    · cases herror.symm.trans hrun
    · obtain rfl := Except.error.inj (herror.symm.trans hrun)
      rcases State.blames_step c rest f hstep with h | h
      · cases h.symm.trans hopener
      · obtain rfl := Option.some.inj (h.symm.trans hopener)
        rw [openings, Reading.openings_of_cons hahead, hahead]
        refine ⟨⟨_, rfl⟩, ?_⟩
        rintro c' ⟨⟩
        exact exists_closer hopener
  · -- it comes to the end of the source, and the innermost group that is open is not closed
    rcases hstop with ⟨hrun, hahead⟩ | ⟨c, rest, f', hrun, -⟩
    · obtain rfl := Except.ok.inj (hst.symm.trans hrun)
      have hlength := (follows_stopped source).length_groups
      rw [openings, Reading.openings_of_nil hahead, hahead]
      refine ⟨?_, by rintro c ⟨⟩⟩
      rcases hgroups : (stopped source).groups with _ | ⟨g, groups⟩
      · rw [hgroups] at hlength
        exact absurd (List.eq_nil_of_length_eq_zero hlength.symm) houter
      · exact ⟨g, rfl⟩
    · cases hst.symm.trans hrun

/-- **The first opener that is not closed is told.** A source is refused because a group, a
class or a counted repetition is not closed; that is the last unit that is not closed. If
the delimiters of the source are delimiters to the reader, too, the rejection tells the opening
delimiter of the first one, and its place in bytes. Where only one is not closed, that is the
one to which the compiler objects. -/
theorem first_opening_told {source : String} (hf : compile source.toList = .error f)
    (hopener : f.opener? = some opener) (hplain : Plain source.toList) :
    ∃ (r : Rejection) (delimiter : Char) (first last : List Char),
      ofSource source = .error r ∧ r.kind = .unclosedDelimiter delimiter (byteLength first) ∧
      (delimiter, first) ∈ openings source.toList ∧ (opener, last) ∈ openings source.toList ∧
      (∀ o ∈ openings source.toList,
        o.2 ++ [o.1] <+: source.toList ∧ first <+: o.2 ∧ o.2 <+: last) ∧
      ((openings source.toList).length = 1 → delimiter = opener ∧ first = last) := by
  obtain ⟨⟨last, hlast⟩, hahead⟩ := head?_openings hf hopener
  obtain ⟨hstands, hnested⟩ := (follows_stopped source.toList).openings_nested
  have hne : openings source.toList ≠ [] := by
    intro hnil
    rw [hnil] at hlast
    cases hlast
  obtain ⟨before, ⟨delimiter, first⟩, hbefore⟩ := (List.eq_nil_or_concat' _).resolve_left hne
  obtain ⟨after, hafter⟩ := List.head?_eq_some_iff.mp hlast
  have hfirst : (openings source.toList).getLast? = some (delimiter, first) :=
    hbefore ▸ List.getLast?_concat
  have hopen := Reading.openDelimiter?_eq
    (fun d hd hreaches => unclosed?_of_plain hplain hahead hd hreaches) hahead hfirst
  refine ⟨_, delimiter, first, last, ofSource_eq_error_iff.mpr ⟨f, _, .own hf, rfl⟩,
    kind_of_opener hopener hopen _, List.mem_of_getLast? hfirst, List.mem_of_head? hlast,
    fun o ho => ⟨hstands o ho, ?_, ?_⟩, fun hone => ?_⟩
  · change (openings source.toList).Pairwise _ at hnested
    rw [hbefore] at hnested ho
    rcases List.mem_append.mp ho with ho | ho
    · exact (List.pairwise_append.mp hnested).2.2 o ho _ (List.mem_singleton_self _)
    · rw [List.mem_singleton.mp ho]
  · change (openings source.toList).Pairwise _ at hnested
    rw [hafter] at hnested ho
    rcases List.mem_cons.mp ho with rfl | ho
    · exact List.prefix_refl _
    · exact List.rel_of_pairwise_cons hnested ho
  · obtain ⟨o, ho⟩ := List.length_eq_one_iff.mp hone
    rw [ho] at hfirst hlast
    obtain ⟨rfl, rfl⟩ := Prod.mk.inj (Option.some.inj (hfirst.symm.trans hlast))
    exact ⟨rfl, rfl⟩

/-- A class that is not closed in a group that is not closed: the group is told. -/
theorem first_opening_told_of_class :
    ∃ r, ofSource "é(b(?:c)[d" = .error r ∧ compile "é(b(?:c)[d".toList = .error .classUnclosed ∧
      openings "é(b(?:c)[d".toList = [('[', "é(b(?:c)".toList), ('(', "é".toList)] ∧
      r.kind = .unclosedDelimiter '(' 2 := by
  have hfault : compile "é(b(?:c)[d".toList = .error .classUnclosed := by rfl
  have hopenings : openings "é(b(?:c)[d".toList =
      [('[', "é(b(?:c)".toList), ('(', "é".toList)] := by decide +kernel
  obtain ⟨r, delimiter, first, last, hr, hkind, hmem, hmem', hnested, -⟩ :=
    first_opening_told hfault rfl (by decide +kernel)
  rw [hopenings] at hmem hnested
  have hfirst := (hnested ('(', "é".toList) (by simp)).2.1
  refine ⟨r, hr, hfault, hopenings, ?_⟩
  rw [hkind]
  simp only [List.mem_cons, Prod.mk.injEq, List.not_mem_nil, or_false] at hmem
  rcases hmem with ⟨rfl, rfl⟩ | ⟨rfl, rfl⟩
  · exact absurd hfirst (by decide)
  · rfl

end Pattern

end LogSift
