import LogSift.Proofs.Log.Lineage
import LogSift.Proofs.Script.Frame
import LogSift.Proofs.Script.Loading
/-!
# Lines through a script

A directive leaves each line where it is, removes it, or puts a line next
to it; only sorting moves lines, and lines may be added at either end
(`Directive.Layout`). The lines that are left go on but for the parts that
the directive is about (`perform_traces`), whether or not it meets a
problem. Step by step this is so for a whole script (`performAll_traced`):
a line that is lost has come to a directive that removes it.
-/


namespace LogSift

variable {world : World} {w : Workspace} {d : Directive} {ds : List Directive}
variable {log before after : Log} {o : Origins}

/-! ## What directives do to lines -/

/-- The parts of a line that a stream edit may change. -/
def SedAction.touched : SedAction → List Line.Part
  | filter _ => [.visible, .matched, .fields, .highlights]
  | replace _ _ _ | change _ => [.text, .highlights]
  | insert _ | append _ | delete => [.number]

namespace Directive

/-- The parts of a line that a directive may change. -/
def touched : Directive → List Line.Part
  | chop | duplicates _ => [.number]
  | truncate _ => [.text, .highlights]
  | addField _ _ | keyValues _ => [.fields]
  | sed _ action => action.touched
  | filter _ _ | today => [.visible, .matched, .fields, .highlights]
  | hideUnmatched | filterSections _ _ => [.visible]
  | divideByPattern _ | divideByField _ => [.beginSection, .highlights]
  | _ => []

/-- Does the directive remove the line? -/
def removes : Directive → Line → Bool
  | chop, l => !l.visible
  | clear, _ => true
  | sed address .delete, l => Address.selects? address l
  | _, _ => false

/-- May the directive add lines? -/
def adds : Directive → Bool
  | load _ | demo _ _ | duplicates _ | sed _ (.insert _) | sed _ (.append _) => true
  | _ => false

/-- What stands in the place of a line afterwards: nothing if it is removed, a
new line before or after a selected one, and otherwise the line alone. -/
def standing (d : Directive) (l : Line) (i : Nat) : Origins :=
  match d with
  | sed address (.insert _) => if Address.selects? address l then [none, some i] else [some i]
  | sed address (.append _) => if Address.selects? address l then [some i, none] else [some i]
  | _ => if d.removes l then [] else [some i]

/-- **Where lines stand after a directive**: those of a load or a demonstration
behind the others, summaries before them, and after sorting in any order. -/
def Layout (d : Directive) (log : Log) (o : Origins) : Prop :=
  match d with
  | load _ | demo _ _ => ∃ added, o = log.arrange d.standing ++ List.replicate added none
  | duplicates _ => ∃ added, o = List.replicate added none ++ log.arrange d.standing
  | sort _ => o.Perm (log.arrange d.standing)
  | _ => o = log.arrange d.standing

/-- **The lines are traced** through a directive. -/
structure Traces (d : Directive) (before after : Log) (o : Origins) : Prop where
  layout : d.Layout before o
  follows : Log.Follows d.touched before after o

/-- Work in place is traced. -/
theorem exists_traces_of_edited (hlayout : d.Layout log (log.arrange fun _ i => [some i]))
    (h : Log.Edited d.touched log after) : ∃ o, d.Traces log after o :=
  ⟨_, hlayout, (Log.follows_self log).edited h⟩

/-- And so is adding texts at the end. -/
theorem exists_traces_appendTexts (texts : List String)
    (hlayout : ∀ added, d.Layout log
      ((log.arrange fun _ i => [some i]) ++ List.replicate added none)) :
    ∃ o, d.Traces log (log.appendTexts texts) o :=
  ⟨_, hlayout _, ((Log.follows_self log).mono (List.nil_subset _)).append
    (Log.follows_new d.touched log _)⟩

/-- **The lines are traced through a stream edit.** -/
theorem exists_traces_sed (address : Option Address) (action : SedAction) (color : Color)
    (log : Log) :
    ∃ o, (sed address action).Traces log (action.apply address color log).2 o := by
  cases action with
  | filter kind => exact exists_traces_of_edited rfl (Log.edited_filterLines none kind color _ log)
  | replace p replacement all =>
    exact exists_traces_of_edited rfl (Log.edited_replace p replacement all address log)
  | change text => exact exists_traces_of_edited rfl (Log.edited_change address text color log)
  | insert text =>
    have hput : Log.Follows [] log
        (log.flatMap fun l =>
          if Address.selects? address l then [Log.newLine text color, l] else [l])
        (log.arrange (sed address (.insert text)).standing) := by
      refine Log.follows_flatMap fun i l hi => ?_
      rw [standing]
      split
      · exact .new (.kept hi (.refl [] l) .nil)
      · exact .kept hi (.refl [] l) .nil
    exact ⟨_, rfl, hput.edited (Log.edited_renumber _)⟩
  | append text =>
    have hput : Log.Follows [] log
        (log.flatMap fun l =>
          if Address.selects? address l then [l, Log.newLine text color] else [l])
        (log.arrange (sed address (.append text)).standing) := by
      refine Log.follows_flatMap fun i l hi => ?_
      rw [standing]
      split
      · exact .kept hi (.refl [] l) (.new .nil)
      · exact .kept hi (.refl [] l) .nil
    exact ⟨_, rfl, hput.edited (Log.edited_renumber _)⟩
  | delete =>
    exact ⟨_, rfl, (Log.follows_filter (Address.selects? address) log).edited
      (Log.edited_renumber _)⟩

/-- Summaries are put at the top, if there are any. -/
theorem exists_traces_duplicates (threshold : Nat) (normalize : String → String) (log : Log) :
    ∃ o, (duplicates threshold).Traces log (log.detectDuplicates threshold normalize).2 o := by
  rw [Log.detectDuplicates]
  split
  · exact ⟨_, ⟨0, rfl⟩, (Log.follows_self log).mono (List.nil_subset _)⟩
  · exact ⟨_, ⟨_, rfl⟩, ((Log.follows_new [] log _).append (Log.follows_self log)).edited
      (Log.edited_renumber _)⟩

/-- **The lines are traced through any directive**, whether or not it meets a
problem. -/
theorem perform_traces (world : World) (w : Workspace) (d : Directive) :
    ∃ o, d.Traces w.log (d.perform world w).workspace.log o := by
  cases d with
  | require | exclude | clearFilters | limit | replace | color | dateFormat | query | sleep =>
    exact exists_traces_of_edited rfl (.refl _ w.log)
  | requireToday =>
    rw [perform_log rfl]
    exact exists_traces_of_edited rfl (.refl _ w.log)
  | load pattern =>
    obtain ⟨texts, hlog⟩ := Load.exists_load_eq_appendTexts world.files w.settings pattern w.log
    have hperform : ((load pattern).perform world w).workspace.log = _ := hlog
    rw [hperform]
    exact exists_traces_appendTexts texts fun added => ⟨added, rfl⟩
  | demo races seed => exact exists_traces_appendTexts _ fun added => ⟨added, rfl⟩
  | chop =>
    have hshown : (w.log.filter fun l => !!l.visible) = w.log.filter (·.visible) := by simp
    have hleft := Log.follows_filter (fun l => !l.visible) w.log
    rw [hshown] at hleft
    exact ⟨_, rfl, hleft.edited (Log.edited_renumber _)⟩
  | clear =>
    have hleft := Log.follows_filter (fun _ => true) w.log
    have hnone : (w.log.filter fun _ => !true) = [] := by simp
    rw [hnone] at hleft
    exact ⟨_, rfl, hleft⟩
  | truncate characters =>
    exact exists_traces_of_edited rfl (Log.edited_truncate characters w.log)
  | addField add known => exact exists_traces_of_edited rfl (Log.edited_addField add known w.log)
  | keyValues p => exact exists_traces_of_edited rfl (Log.edited_parseFields p w.log)
  | sort fields =>
    obtain ⟨o, hperm, hfollows⟩ := Log.exists_follows_mergeSort
      (fun a b => Line.compareBy fields a b != .gt) w.log
    exact ⟨o, hperm, hfollows⟩
  | sed address action => exact exists_traces_sed address action w.settings.color w.log
  | filter kind p =>
    exact exists_traces_of_edited rfl
      (Log.edited_filterLines (some p) kind w.settings.color none w.log)
  | hideUnmatched => exact exists_traces_of_edited rfl (Log.edited_hideUnmatched w.log)
  | today =>
    rw [perform]
    split
    · exact exists_traces_of_edited rfl
        (Log.edited_filterLines _ .required w.settings.color none w.log)
    · exact exists_traces_of_edited rfl (.refl _ w.log)
  | divideByPattern p =>
    exact exists_traces_of_edited rfl (Log.edited_divideByPattern p w.settings.color w.log)
  | divideByField field =>
    exact exists_traces_of_edited rfl (Log.edited_divideByField field w.settings.color w.log)
  | filterSections keep p =>
    exact exists_traces_of_edited rfl (Log.edited_filterSections p _ w.log)
  | duplicates threshold => exact exists_traces_duplicates threshold Text.kindOf w.log

/-! ## What a layout says -/

/-- A line that is not removed stands there, alone or with one that is new. -/
theorem standing_cases (d : Directive) (l : Line) (i : Nat) :
    d.standing l i = (if d.removes l then [] else [some i]) ∨
      (d.adds = true ∧ d.removes l = false) ∧
        (d.standing l i = [none, some i] ∨ d.standing l i = [some i, none]) := by
  cases d with
  | sed address action =>
    cases action with
    | insert text =>
      rcases hselects : Address.selects? address l with _ | _
      · exact Or.inl (by simp [standing, removes, hselects])
      · exact Or.inr ⟨⟨rfl, rfl⟩, Or.inl (by simp [standing, hselects])⟩
    | append text =>
      rcases hselects : Address.selects? address l with _ | _
      · exact Or.inl (by simp [standing, removes, hselects])
      · exact Or.inr ⟨⟨rfl, rfl⟩, Or.inr (by simp [standing, hselects])⟩
    | filter | replace | change | delete => exact Or.inl rfl
  | load | demo | require | exclude | requireToday | clearFilters | limit | replace | chop | clear
  | truncate | addField | keyValues | sort | color | filter | hideUnmatched | today | dateFormat
  | divideByPattern | divideByField | filterSections | duplicates | query | sleep =>
    exact Or.inl rfl

theorem kept_standing (d : Directive) (l : Line) (i : Nat) :
    Origins.kept (d.standing l i) = if !d.removes l then [i] else [] := by
  rcases d.standing_cases l i with hleft | ⟨⟨-, hremoves⟩, hboth | hboth⟩
  · rw [hleft]
    cases d.removes l <;> rfl
  · rw [hboth, hremoves]
    rfl
  · rw [hboth, hremoves]
    rfl

theorem none_notMem_standing (h : d.adds = false) (l : Line) (i : Nat) :
    none ∉ d.standing l i := by
  rcases d.standing_cases l i with hleft | ⟨⟨hadds, -⟩, -⟩
  · rw [hleft]
    cases d.removes l <;> simp
  · rw [h] at hadds
    cases hadds

/-- Sorting apart, what stands in the place of the lines stands between lines
that have been added at either end. -/
theorem Layout.exists_ends (h : d.Layout log o) :
    (∃ fields, d = .sort fields) ∧ o.Perm (log.arrange d.standing) ∨
      ∃ front back, (d.adds = true ∨ front = 0 ∧ back = 0) ∧
        o = List.replicate front none ++ log.arrange d.standing ++ List.replicate back none := by
  cases d with
  | load | demo =>
    obtain ⟨added, rfl⟩ := h
    exact Or.inr ⟨0, added, Or.inl rfl, rfl⟩
  | duplicates =>
    obtain ⟨added, rfl⟩ := h
    exact Or.inr ⟨added, 0, Or.inl rfl, (List.append_nil _).symm⟩
  | sort fields => exact Or.inl ⟨⟨fields, rfl⟩, h⟩
  | sed | require | exclude | requireToday | clearFilters | limit | replace | chop | clear
  | truncate | addField | keyValues | color | filter | hideUnmatched | today | dateFormat
  | divideByPattern | divideByField | filterSections | query | sleep =>
    exact Or.inr ⟨0, 0, Or.inr ⟨rfl, rfl⟩, h.trans (List.append_nil _).symm⟩

/-- Whatever has been added, the lines that are not removed are kept. -/
theorem kept_ends (d : Directive) (log : Log) (front back : Nat) :
    Origins.kept (List.replicate front none ++ log.arrange d.standing ++ List.replicate back none) =
      log.placesOf fun l => !d.removes l := by
  rw [Origins.kept_append, Origins.kept_append, Origins.kept_replicate_none,
    Origins.kept_replicate_none, List.nil_append, List.append_nil,
    Log.kept_arrange d.kept_standing]

/-- **Sorting apart, they are kept in order.** -/
theorem Layout.kept_eq (h : d.Layout log o) (hsort : ∀ fields, d ≠ .sort fields) :
    o.kept = log.placesOf fun l => !d.removes l := by
  rcases h.exists_ends with ⟨⟨fields, hd⟩, -⟩ | ⟨front, back, -, rfl⟩
  · exact absurd hd (hsort fields)
  · exact d.kept_ends log front back

theorem Layout.kept_perm (h : d.Layout log o) :
    o.kept.Perm (log.placesOf fun l => !d.removes l) := by
  rcases h.exists_ends with ⟨-, hperm⟩ | ⟨front, back, -, rfl⟩
  · rw [← Log.kept_arrange d.kept_standing]
    exact hperm.filterMap id
  · rw [d.kept_ends log front back]

/-- **Each line is kept at most once**, -/
theorem Layout.nodup (h : d.Layout log o) : o.kept.Nodup :=
  h.kept_perm.nodup_iff.mpr ((Log.pairwise_placesOf _ log).imp Nat.ne_of_lt)

/-- **and just the lines that are not removed are kept.** -/
theorem Layout.mem_kept (h : d.Layout log o) {i : Nat} {l : Line} (hi : log[i]? = some l) :
    i ∈ o.kept ↔ d.removes l = false := by
  rw [h.kept_perm.mem_iff, Log.mem_placesOf hi, Bool.not_eq_true']

theorem Layout.ordered (h : d.Layout log o) (hsort : ∀ fields, d ≠ .sort fields) :
    o.kept.Pairwise (· < ·) := by
  rw [h.kept_eq hsort]
  exact Log.pairwise_placesOf _ log

/-- **Lines are new only where they may be added.** -/
theorem Layout.adds_of_none_mem (h : d.Layout log o) (hnone : none ∈ o) : d.adds = true := by
  rcases hadds : d.adds with _ | _
  · have hleft : none ∉ log.arrange d.standing :=
      Log.none_notMem_arrange (none_notMem_standing hadds) log
    refine absurd hnone ?_
    rcases h.exists_ends with ⟨-, hperm⟩ | ⟨front, back, hends, rfl⟩
    · exact fun hmem => hleft (hperm.mem_iff.mp hmem)
    · obtain ⟨rfl, rfl⟩ := hends.resolve_left (by simp [hadds])
      simpa using hleft
  · rfl

end Directive

/-! ## Runs -/

namespace Script

theorem exists_step_traces (world : World) (w : Workspace) (d : Directive) :
    ∃ o, d.Traces w.log (step world w d).workspace.log o := by
  rw [step]
  split
  · exact Directive.perform_traces world w.forgetProjection d
  · exact Directive.perform_traces world w d

/-- **A line is lost** in a run, told by its place: in time it comes to a
directive that removes it. -/
inductive Loses (world : World) : Workspace → List Directive → Nat → Prop
  | removed {w : Workspace} {d : Directive} {ds : List Directive} {i : Nat} {l : Line} :
      w.log[i]? = some l → d.removes l = true → Loses world w (d :: ds) i
  /-- It is left by a directive, and lost after that from where it is then. -/
  | later {w : Workspace} {d : Directive} {ds : List Directive} {i j : Nat} {o : Origins} :
      (step world w d).problem = none → d.Traces w.log (step world w d).workspace.log o →
      o[j]? = some (some i) → Loses world (step world w d).workspace ds j →
      Loses world w (d :: ds) i

/-- **The lines are traced** through directives, performed in order up to the
first that meets a problem. -/
structure Traced (world : World) (w : Workspace) (ds : List Directive) (after : Log)
    (o : Origins) : Prop where
  /-- Lines that are left go on but for the parts that the directives are
  about. -/
  follows : Log.Follows (ds.flatMap Directive.touched) w.log after o
  /-- Each line is there at most once. -/
  once : o.kept.Nodup
  lost : ∀ i l, w.log[i]? = some l → i ∉ o.kept → Loses world w ds i
  ordered : (∀ fields, .sort fields ∉ ds) → o.kept.Pairwise (· < ·)
  added : none ∈ o → ∃ d ∈ ds, d.adds = true

/-- Without directives the lines are those that were there. -/
theorem traced_nil (world : World) (w : Workspace) :
    Traced world w [] w.log (w.log.arrange fun _ i => [some i]) := by
  have hkept : Origins.kept (w.log.arrange fun _ i => [some i]) = w.log.placesOf fun _ => true :=
    Log.kept_arrange (fun _ _ => rfl) w.log
  have hordered := Log.pairwise_placesOf (fun _ => true) w.log
  refine ⟨Log.follows_self w.log, ?_, fun i l hi hmem => ?_, fun _ => ?_, fun hnone => ?_⟩
  · rw [hkept]
    exact hordered.imp Nat.ne_of_lt
  · rw [hkept, Log.mem_placesOf hi] at hmem
    exact absurd rfl hmem
  · rw [hkept]
    exact hordered
  · exact absurd hnone (Log.none_notMem_arrange (by simp) w.log)

/-- A directive that ends a run traces the lines for all of it. -/
theorem traced_of_last (h : d.Traces w.log after o) : Traced world w (d :: ds) after o where
  follows := h.follows.mono (List.subset_append_left _ _)
  once := h.layout.nodup
  lost i l hi hmem := by
    rw [h.layout.mem_kept hi, Bool.not_eq_false] at hmem
    exact .removed hi hmem
  ordered hsort := h.layout.ordered fun fields hd => hsort fields (hd ▸ List.mem_cons_self)
  added hnone := ⟨d, List.mem_cons_self, h.layout.adds_of_none_mem hnone⟩

/-- **One more directive before the others.** -/
theorem Traced.cons {p : Origins} (hdone : (step world w d).problem = none)
    (h : d.Traces w.log (step world w d).workspace.log o)
    (hrest : Traced world (step world w d).workspace ds after p) :
    Traced world w (d :: ds) after (o.comp p) where
  follows := h.follows.comp hrest.follows
  once := Origins.nodup_comp h.layout.nodup hrest.once
  lost i l hi hmem := by
    rcases Origins.notMem_kept_comp hmem with hgone | ⟨j, hj, hgone⟩
    · rw [h.layout.mem_kept hi, Bool.not_eq_false] at hgone
      exact .removed hi hgone
    · obtain ⟨-, l', -, hl', -⟩ := h.follows.continues hj
      exact .later hdone h hj (hrest.lost j l' hl' hgone)
  ordered hsort := by
    refine Origins.pairwise_lt_comp (h.layout.ordered fun fields hd => ?_)
      (hrest.ordered fun fields hmem => hsort fields (List.mem_cons_of_mem d hmem))
    exact hsort fields (hd ▸ List.mem_cons_self)
  added hnone := by
    rcases h.follows.none_mem_of_comp hrest.follows hnone with hnew | hnew
    · exact ⟨d, List.mem_cons_self, h.layout.adds_of_none_mem hnew⟩
    · obtain ⟨e, he, hadds⟩ := hrest.added hnew
      exact ⟨e, List.mem_cons_of_mem d he, hadds⟩

/-- **The lines are traced through a run**, by induction on its directives. -/
theorem performAll_traced (world : World) (w : Workspace) (ds : List Directive) :
    ∃ o, Traced world w ds (performAll world w ds).1.workspace.log o := by
  induction ds generalizing w with
  | nil => exact ⟨_, traced_nil world w⟩
  | cons d ds ih =>
    obtain ⟨o, h⟩ := exists_step_traces world w d
    rcases hp : (step world w d).problem with _ | problem
    · obtain ⟨p, hrest⟩ := ih (step world w d).workspace
      rw [performAll_cons_of_done hp]
      exact ⟨_, .cons hp h hrest⟩
    · rw [performAll_cons_of_problem hp]
      exact ⟨o, traced_of_last h⟩

/-- **Lines are neither lost nor doubled.** After any directive, whether or not
it meets a problem, each line is there at most once, and just those that
the directive removes are not: the hidden ones after `chop`, all after
`clear`, and those that `sed d` selects. All others go on but for the
parts that the directive is about: they start a section if they did, and
have the fields they had. They are in the same order unless they have been
sorted, which moves them and does nothing else. Lines are new only where
the directive adds some: behind all others for `<` and `demo`, before them
for `d`, and one next to each selected line for `sed i` and `sed a`. So it
is for a script, one directive after the other: what is lost has come to a
directive that removes it. -/
theorem lines_traced (world : World) :
    (∀ (w : Workspace) (d : Directive),
      let after := (d.perform world w).workspace.log
      ∃ o, d.Layout w.log o ∧ Log.Follows d.touched w.log after o ∧
        o.kept.Nodup ∧ (∀ i l, w.log[i]? = some l → (i ∈ o.kept ↔ d.removes l = false)) ∧
        ((∀ fields, d ≠ .sort fields) → o.kept.Pairwise (· < ·)) ∧
        (∀ fields, d = .sort fields → after.Perm w.log) ∧
        (none ∈ o → d.adds = true) ∧
        ∀ i j : Nat, o[j]? = some (some i) → ∃ l l' : Line,
          w.log[i]? = some l ∧ after[j]? = some l' ∧
          (l.beginSection = true → l'.beginSection = true) ∧
          ∀ name ∈ l.fields.names, name ∈ l'.fields.names) ∧
      ∀ (w : Workspace) (script : String), ∃ ds o, (ds = [] ∨ Accepted script ds) ∧
        Traced world w ds (run world script w).workspace.log o := by
  refine ⟨fun w d => ?_, fun w script => ?_⟩
  · obtain ⟨o, hlayout, hfollows⟩ := d.perform_traces world w
    refine ⟨o, hlayout, hfollows, hlayout.nodup, fun i l => hlayout.mem_kept, hlayout.ordered, ?_,
      hlayout.adds_of_none_mem, fun i j hj => ?_⟩
    · rintro fields rfl
      exact List.mergeSort_perm _ _
    · obtain ⟨l, l', hl, hl', hgoes⟩ := hfollows.continues hj
      exact ⟨l, l', hl, hl', hgoes.starts, fun _ hname => hgoes.names hname⟩
  · rcases run_cases world script w with ⟨ds, haccepted, hrun⟩ | ⟨reports, hrun⟩
    · obtain ⟨o, h⟩ := performAll_traced world w ds
      refine ⟨ds, o, Or.inr haccepted, ?_⟩
      rwa [hrun, execute_workspace]
    · refine ⟨[], w.log.arrange fun _ i => [some i], Or.inl rfl, ?_⟩
      rw [hrun]
      exact traced_nil world w

/-- A script takes a hidden line out, loads a file, and fails then. The hidden
line is lost; the two others are there, before the one of the file, and
start the sections they did. -/
theorem lines_traced_of_chop :
    let world : World := ⟨(Files.empty []).write ["a"] (Text.Utf8.encode "new"), ⟨0, 0⟩, 0, none⟩
    let w : Workspace :=
      ⟨[⟨"a", 1, true, false, Keyed.empty, true, []⟩,
        ⟨"b", 2, false, false, Keyed.empty, true, []⟩,
        ⟨"c", 3, true, false, Keyed.empty, false, []⟩], Settings.initial⟩
    let log := (run world "chop\n< a\n< b" w).workspace.log
    (run world "chop\n< a\n< b" w).success = false ∧
      log.map (fun l => (l.text, l.beginSection)) =
        [("a", true), ("c", false), ("new", false)] ∧
      ∃ ds o, Traced world w ds log o ∧ Loses world w ds 1 := by
  intro world w log
  have hlog : log.map (fun l => (l.text, l.beginSection)) =
      [("a", true), ("c", false), ("new", false)] := by decide +kernel
  have hparse : parse "chop\n< a\n< b" = .ok [.chop, .load "a", .load "b"] := by rfl
  obtain ⟨-, hscript⟩ := lines_traced world
  obtain ⟨ds, o, hds, htraced⟩ := hscript w "chop\n< a\n< b"
  refine ⟨by decide +kernel, hlog, ds, o, htraced, htraced.lost 1 _ rfl fun hkept => ?_⟩
  -- the text of the hidden line is nowhere, though the script touches no text
  have htext : .text ∉ ds.flatMap Directive.touched := by
    rcases hds with rfl | haccepted
    · simp
    · cases haccepted.parsed.symm.trans hparse
      decide
  obtain ⟨j, hj⟩ := Origins.mem_kept_iff_getElem?.mp hkept
  obtain ⟨l, l', hl, hl', hgoes⟩ := htraced.follows.continues hj
  have hmem : (l'.text, l'.beginSection) ∈ log.map fun l => (l.text, l.beginSection) :=
    List.mem_map_of_mem (List.mem_of_getElem? hl')
  have hsame : l'.text = l.text := hgoes.same .text htext
  cases hl
  rw [hlog, hsame] at hmem
  simp at hmem

end Script

end LogSift
