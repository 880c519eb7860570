import LogSift.Proofs.Pattern.Opened
import LogSift.Proofs.Unicode.Ascii
/-!
# Names that a source shows

The names of groups are looked for in the source without reading it: a name
is shown wherever `(?<name>` or `(?P<name>` stands (`namesIn_eq`). Where the
reader comes to such a place it opens a group with that name
(`State.opened_of_shown`). But the place may lie in a class, behind a
backslash or in a comment, and then the name is a stray one; and a group may
have a name that is not shown so. The names found are those of the groups if
there are no stray names and no hidden ones (`namesIn_eq_shownNames_iff`,
`shownNames_eq_names_iff`).
-/


namespace LogSift

namespace Pattern

open Reader (State skip)

variable {source cs left letters tail : List Char} {e : Expr} {name : String}

/-! ## Names that are shown -/

/-- Can the character stand in a name that is shown? -/
def isPlain (c : Char) : Bool := c.isAlphanum || c = '_'

/-- What stands behind the opening of a group with a name, after the question mark. -/
def behindOpening? : List Char → Option (List Char)
  | 'P' :: '<' :: body => some body
  | '<' :: body => some body
  | _ => none

/-- The name that stands before a closing bracket. -/
def plainName? (body : List Char) : Option String :=
  let letters := body.takeWhile isPlain
  if !letters.isEmpty && (body.drop letters.length).head? = some '>' then
    some (String.ofList letters)
  else none

/-- The name that a text shows at its start. -/
def shownName? : List Char → Option String
  | '(' :: '?' :: rest => (behindOpening? rest).bind plainName?
  | _ => none

theorem shownName?_cons {c : Char} {rest : List Char}
    (h : ∀ rest', c = '(' → rest = '?' :: rest' → False) : shownName? (c :: rest) = none := by
  unfold shownName?
  split
  · rename_i rest' heq
    obtain ⟨hc, hrest⟩ := List.cons.inj heq
    exact (h rest' hc hrest).elim
  · rfl

/-- **The names found in a source are those that it shows**, wherever it shows them. -/
theorem namesIn_eq (cs : List Char) : namesIn cs = cs.tails.filterMap shownName? := by
  -- an opening is followed by its question mark, which shows nothing
  have hopening : ∀ rest : List Char, ('(' :: '?' :: rest).tails.filterMap shownName? =
      ((behindOpening? rest).bind plainName?).toList ++ rest.tails.filterMap shownName? := by
    intro rest
    have hnone : shownName? ('?' :: rest) = none := rfl
    rw [List.tails_cons, List.tails_cons, List.filterMap_cons, List.filterMap_cons_none hnone,
      shownName?]
    cases (behindOpening? rest).bind plainName? <;> rfl
  fun_induction namesIn cs with
  | case1 => rfl
  | case2 rest body hbody ih =>
    have hnone : behindOpening? rest = none := hbody
    rw [hopening, hnone, ih]
    rfl
  | case3 rest _ body hbody letters hletters ih =>
    have hsome : behindOpening? rest = some body := hbody
    have hname : plainName? body = some (String.ofList letters) := if_pos hletters
    rw [hopening, hsome, Option.bind_some, hname, ih]
    rfl
  | case4 rest _ body hbody letters hletters ih =>
    have hsome : behindOpening? rest = some body := hbody
    have hname : plainName? body = none := if_neg hletters
    rw [hopening, hsome, Option.bind_some, hname, ih]
    rfl
  | case5 c rest h ih =>
    rw [List.tails_cons, List.filterMap_cons_none (shownName?_cons h), ih]

/-- What stands where a name is shown. -/
theorem exists_of_plainName? {body : List Char} (h : plainName? body = some name) :
    ∃ letters tail, body = letters ++ '>' :: tail ∧ letters ≠ [] ∧ '>' ∉ letters ∧
      String.ofList letters = name := by
  rw [plainName?] at h
  simp only [Option.ite_none_right_eq_some, Bool.and_eq_true, Bool.not_eq_true',
    List.isEmpty_eq_false_iff, decide_eq_true_eq, Option.some.injEq] at h
  obtain ⟨⟨hne, hclosing⟩, hname⟩ := h
  have hsplit : body.takeWhile isPlain ++ body.dropWhile isPlain = body :=
    List.takeWhile_append_dropWhile
  have hdrop : body.drop (body.takeWhile isPlain).length = body.dropWhile isPlain :=
    (congrArg (List.drop _) hsplit.symm).trans List.drop_left
  rw [hdrop] at hclosing
  obtain ⟨tail, htail⟩ := List.head?_eq_some_iff.mp hclosing
  refine ⟨body.takeWhile isPlain, tail, htail ▸ hsplit.symm, hne, fun hmem => ?_, hname⟩
  have hplain := List.mem_takeWhile_imp hmem
  cases hplain

/-! ## Where the reader comes to such a place -/

namespace Reader

namespace State

variable {st st' : State} {c : Char} {rest : List Char}

/-- A name is read up to the bracket that closes it. -/
theorem groupName_append {front : List Char} {read : List Char × List Char}
    (hletters : '>' ∉ letters)
    (h : Reader.groupName front (letters ++ '>' :: tail) = .ok read) :
    read.1 = front.reverse ++ letters := by
  induction letters generalizing front with
  | nil =>
    obtain rfl := Except.ok.inj h
    exact (List.append_nil _).symm
  | cons c letters ih =>
    obtain ⟨hc, hletters⟩ := not_or.mp (mt List.mem_cons.mpr hletters)
    rw [List.cons_append, Reader.groupName, if_neg (Ne.symm hc)] at h
    split at h
    · rw [ih hletters h]
      simp
    · cases h

theorem opened_enterNamed (hletters : '>' ∉ letters)
    (hst : st.enterNamed (letters ++ '>' :: tail) = .ok (st', left)) :
    st.opened? st' = some (st.captures + 1, some (String.ofList letters)) := by
  obtain ⟨⟨read, rest⟩, hread, hst⟩ := bind_eq_ok_iff.mp hst
  have hletters : read = letters := groupName_append hletters hread
  simp only [hletters] at hst
  split at hst
  · cases hst
  · split at hst
    · cases hst
    · obtain ⟨rfl, -⟩ := Prod.mk.inj (Except.ok.inj hst)
      exact if_pos (Nat.lt_succ_self _)

theorem skip_question (v : Bool) (rest : List Char) : skip v ('?' :: rest) = '?' :: rest := by
  cases v <;> rfl

theorem opened_openGroup {question : List Char}
    (hbody : behindOpening? question = some (letters ++ '>' :: tail)) (hletters : '>' ∉ letters)
    (hst : st.openGroup ('?' :: question) = .ok (st', left)) :
    st.opened? st' = some (st.captures + 1, some (String.ofList letters)) := by
  unfold openGroup at hst
  simp only [skip_question] at hst
  split at hst
  · -- what could be a look-around is refused
    cases hst
  · unfold behindOpening? at hbody
    split at hbody
    · obtain rfl := Option.some.inj hbody
      exact opened_enterNamed hletters hst
    · obtain rfl := Option.some.inj hbody
      exact opened_enterNamed hletters hst
    · cases hbody

/-- **A unit that shows a name opens the group with that name.** -/
theorem opened_of_shown (hshown : shownName? (c :: rest) = some name)
    (hst : st.step c rest = .ok (st', left)) : (st.opened? st').bind (·.2) = some name := by
  unfold shownName? at hshown
  split at hshown
  · rename_i question heq
    obtain ⟨rfl, rfl⟩ := List.cons.inj heq
    obtain ⟨body, hbody, hname⟩ := Option.bind_eq_some_iff.mp hshown
    obtain ⟨letters, tail, rfl, -, hletters, rfl⟩ := exists_of_plainName? hname
    rw [opened_openGroup hbody hletters hst]
    rfl
  · cases hshown

theorem shown_of_mem_units {n : Nat} {u : List Char × Option String} (hu : u ∈ units n st cs)
    (hshown : shownName? u.1 = some name) : u.2 = some name := by
  induction n generalizing st cs with
  | zero => exact absurd hu List.not_mem_nil
  | succ n ih =>
    rw [units] at hu
    split at hu
    · exact absurd hu List.not_mem_nil
    · rename_i c rest hskip
      split at hu
      · exact absurd hu List.not_mem_nil
      · rename_i next left hstep
        rcases List.mem_cons.mp hu with rfl | hu
        · exact opened_of_shown hshown hstep
        · exact ih hu

/-- Small letters are read as a name. -/
theorem groupName_of_isLower (hletters : ∀ c ∈ letters, c.isLower = true) (front : List Char) :
    Reader.groupName front (letters ++ '>' :: tail) = .ok (front.reverse ++ letters, tail) := by
  induction letters generalizing front with
  | nil => simp [Reader.groupName]
  | cons c letters ih =>
    obtain ⟨hc, hletters⟩ := List.forall_mem_cons.mp hletters
    have hclosing : c ≠ '>' := by
      rintro rfl
      cases hc
    have hname : Reader.isNameChar c front.isEmpty = true := by
      simp [Reader.isNameChar, Unicode.letter_contains_of_isLower hc,
        Unicode.alphanumeric_contains_of_isLower hc]
    rw [List.cons_append, Reader.groupName, if_neg hclosing, if_pos hname, ih hletters]
    simp

/-- A group whose name has small letters is opened. -/
theorem step_named (st : State) (letters tail : List Char) (hne : letters ≠ [])
    (hletters : letters.all Char.isLower = true) (hnew : st.names.contains letters = false) :
    st.step '(' ('?' :: '<' :: (letters ++ '>' :: tail)) =
      .ok (({ st with captures := st.captures + 1, names := letters :: st.names } : State).enter
        (.capture (st.captures + 1) (some (String.ofList letters))) st.verbose, tail) := by
  have hnamed : st.enterNamed (letters ++ '>' :: tail) =
      .ok (({ st with captures := st.captures + 1, names := letters :: st.names } : State).enter
        (.capture (st.captures + 1) (some (String.ofList letters))) st.verbose, tail) := by
    refine bind_eq_ok_iff.mpr ⟨_, groupName_of_isLower (List.all_eq_true.mp hletters) [], ?_⟩
    simp only [List.reverse_nil, List.nil_append, List.isEmpty_iff, hnew, Bool.false_eq_true]
    rw [if_neg hne, if_neg not_false]
    rfl
  obtain ⟨c, letters, rfl⟩ := List.exists_cons_of_ne_nil hne
  have hc := List.all_eq_true.mp hletters c List.mem_cons_self
  have heq : ¬ '=' = c := by
    rintro rfl
    cases hc
  have hbang : ¬ '!' = c := by
    rintro rfl
    cases hc
  rw [step, openGroup, skip_question]
  simpa [Text.after?, heq, hbang] using hnamed

end State

end Reader

/-! ## Stray names and hidden names -/

/-- **No name is shown but where the reader comes to**: neither in a class, nor behind a backslash,
nor in a comment. -/
def NoStrayNames (source : List Char) : Prop :=
  ∀ t ∈ source.tails, (shownName? t).isSome → t ∈ (units source).map (·.1)

/-- **Each group with a name shows it**: the name has only plain characters, and no blank stands in
the opening. -/
def NoHiddenNames (source : List Char) : Prop :=
  ∀ u ∈ units source, u.2.isSome → (shownName? u.1).isSome

instance : Decidable (NoStrayNames source) :=
  inferInstanceAs (Decidable (∀ t ∈ source.tails, (shownName? t).isSome → t ∈ _))

instance : Decidable (NoHiddenNames source) :=
  inferInstanceAs (Decidable (∀ u ∈ units source, u.2.isSome → (shownName? u.1).isSome))

theorem nodup_tails (cs : List Char) : cs.tails.Nodup := by
  induction cs with
  | nil => simp
  | cons c cs ih =>
    rw [List.tails_cons]
    refine List.nodup_cons.mpr ⟨fun hmem => ?_, ih⟩
    -- the text is longer than what stands behind its first character
    have hlength := ((List.mem_tails _ _).mp hmem).length_le
    rw [List.length_cons] at hlength
    omega

section Filtering

variable {α β : Type} {f g : α → Option β} {l l' : List α}

/-- A list is filtered to the same as a part of it iff the part has all that the filter keeps. -/
theorem filterMap_eq_iff_of_sublist (hsub : l.Sublist l') (hnodup : l'.Nodup) :
    l'.filterMap f = l.filterMap f ↔ ∀ x ∈ l', (f x).isSome → x ∈ l := by
  induction hsub with
  | slnil => simp
  | @cons l l' a hsub ih =>
    obtain ⟨ha, hnodup⟩ := List.nodup_cons.mp hnodup
    rw [List.forall_mem_cons, ← ih hnodup]
    cases hf : f a with
    | none => simp [hf]
    | some b =>
      -- it is not in the part, and so one more is kept
      have hlength := (hsub.filterMap f).length_le
      have hnot : a ∉ l := fun hmem => ha (hsub.mem hmem)
      simp only [List.filterMap_cons_some hf, Option.isSome_some, hnot, imp_false, not_true,
        false_and, iff_false]
      intro heq
      have hmore := congrArg List.length heq
      simp only [List.length_cons] at hmore
      omega
  | @cons_cons l l' a hsub ih =>
    obtain ⟨ha, hnodup⟩ := List.nodup_cons.mp hnodup
    have hcons : (a :: l').filterMap f = (a :: l).filterMap f ↔
        l'.filterMap f = l.filterMap f := by
      cases hf : f a <;> simp [hf]
    rw [hcons, ih hnodup, List.forall_mem_cons]
    constructor
    · exact fun h => ⟨fun _ => List.mem_cons_self, fun x hx hsome =>
        List.mem_cons_of_mem a (h x hx hsome)⟩
    · rintro ⟨-, h⟩ x hx hsome
      rcases List.mem_cons.mp (h x hx hsome) with rfl | hmem
      · exact absurd hx ha
      · exact hmem

theorem filterMap_sublist_of_imp (h : ∀ x ∈ l, ∀ y, f x = some y → g x = some y) :
    (l.filterMap f).Sublist (l.filterMap g) := by
  induction l with
  | nil => exact List.Sublist.refl _
  | cons x l ih =>
    obtain ⟨hx, hl⟩ := List.forall_mem_cons.mp h
    cases hf : f x with
    | none =>
      rw [List.filterMap_cons_none hf]
      exact (ih hl).trans ((List.sublist_cons_self x l).filterMap g)
    | some y =>
      rw [List.filterMap_cons_some hf, List.filterMap_cons_some (hx y hf)]
      exact (ih hl).cons_cons y

/-- A filter that agrees with another where it keeps anything keeps the same iff it keeps as
much. -/
theorem filterMap_eq_iff_of_imp (h : ∀ x ∈ l, ∀ y, f x = some y → g x = some y) :
    l.filterMap f = l.filterMap g ↔ ∀ x ∈ l, (g x).isSome → (f x).isSome := by
  induction l with
  | nil => simp
  | cons x l ih =>
    obtain ⟨hx, hl⟩ := List.forall_mem_cons.mp h
    rw [List.forall_mem_cons, ← ih hl]
    cases hf : f x with
    | some y => simp [hf, hx y hf]
    | none =>
      cases hg : g x with
      | none => simp [hf, hg]
      | some y =>
        have hlength := (filterMap_sublist_of_imp hl).length_le
        simp only [List.filterMap_cons_none hf, List.filterMap_cons_some hg, Option.isSome_some,
          Option.isSome_none, Bool.false_eq_true, imp_false, not_true, false_and, iff_false]
        intro heq
        have hmore := congrArg List.length heq
        simp only [List.length_cons] at hmore
        omega

end Filtering

/-- The names that are shown where the reader comes to. -/
def shownNames (source : List Char) : List String :=
  ((units source).map (·.1)).filterMap shownName?

theorem shownNames_sublist_names (he : Expr.read source = .ok e) :
    (shownNames source).Sublist e.names := by
  rw [shownNames, List.filterMap_map, Expr.names, (Expr.groups_of_read he).2]
  exact filterMap_sublist_of_imp fun u hu name => Reader.State.shown_of_mem_units hu

theorem shownNames_sublist_namesIn (source : List Char) :
    (shownNames source).Sublist (namesIn source) := by
  rw [namesIn_eq, shownNames]
  exact (Reader.State.units_sublist _ _ source).filterMap shownName?

/-- **Stray names** are what is found beyond the names shown. -/
theorem namesIn_eq_shownNames_iff (source : List Char) :
    namesIn source = shownNames source ↔ NoStrayNames source := by
  rw [namesIn_eq, shownNames]
  exact filterMap_eq_iff_of_sublist (Reader.State.units_sublist _ _ source) (nodup_tails source)

/-- **Hidden names** are what a pattern has beyond the names shown. -/
theorem shownNames_eq_names_iff (he : Expr.read source = .ok e) :
    shownNames source = e.names ↔ NoHiddenNames source := by
  rw [shownNames, List.filterMap_map, Expr.names, (Expr.groups_of_read he).2]
  exact filterMap_eq_iff_of_imp fun u hu name => Reader.State.shown_of_mem_units hu

/-! ## The groups of a compiled pattern -/

/-- **The groups of a compiled pattern are those that the pattern keeps.** -/
theorem captureNames_eq {text : String} {p : Pattern} (hp : ofSource text = .ok p)
    (he : Expr.read text.toList = .ok e) : p.captureNames = e.keptNames := by
  obtain ⟨e', n, he', hn, -, rfl⟩ := ofSource_eq_ok_iff_node.mp hp
  obtain rfl := Except.ok.inj (he.symm.trans he')
  obtain ⟨e', n₀, m, he', hmeaning, -, rfl⟩ := node_eq_ok_iff.mp hn
  obtain rfl := Except.ok.inj (he.symm.trans he')
  obtain ⟨⟨k, hnumbers⟩, -⟩ := Expr.groups_of_read he
  have hnodup : (e.keptGroups.map (·.1)).Nodup :=
    (e.keptGroups_sublist.map (·.1)).nodup (hnumbers ▸ List.nodup_range')
  have hcaptures := Expr.captures_meaning hnodup hmeaning
  have hgroups : n₀.closed.captures = e.keptGroups :=
    (Node.captures_closed (hcaptures ▸ hnodup)).trans hcaptures
  exact congrArg (List.filterMap (·.2)) hgroups

end Pattern

end LogSift
