import LogSift.Proofs.Log.Sections
import LogSift.Proofs.Script.Selection
/-!
# Filters in any order

What a filter decides about a line it decides by the text, and by whether a
section starts at it, and these are left alone by all filters
(`Line.untouched`). So filters that hide lines may change places without
any difference in what is shown, and filters that match lines without any
difference in what counts as matched: a line is shown if all of the former
let it pass (`visible_filterAll`), and has been matched if one of the
latter finds it (`matched_filterAll`).
-/


namespace LogSift

open Script (performAll performAll_cons_of_done performAll_cons_of_problem)

/-- A filter of lines. -/
structure LineFilter where
  kind : FilterKind
  pattern : Pattern

namespace LineFilter

/-- The directive that filters a log so. -/
def directive (f : LineFilter) : Directive := .filter f.kind f.pattern

/-- Does the line hold a match? -/
def finds (f : LineFilter) (l : Line) : Bool := f.pattern.hasMatch l.text.toList

/-- **Does a shown line pass the filter?** If it is required to match it has to, and if matches are
removed it has none or is the start of a section. -/
def passes (f : LineFilter) (l : Line) : Bool :=
  match f.kind with
  | .required => f.finds l
  | .remove => l.beginSection || !f.finds l
  | .add | .highlight => true

end LineFilter

variable {w : Workspace} {f : LineFilter} {fs : List LineFilter} {d : Directive}
variable {ds : List Directive} {l m : Line}

namespace Line

/-! ## One line and one filter -/

/-- **What no filter touches**: the text, the number, and whether a section starts. -/
def untouched (l : Line) : String × Nat × Bool := (l.text, l.number, l.beginSection)

theorem untouched_filtered (l : Line) (pattern : Option Pattern) (kind : FilterKind)
    (color : Color) (address : Option Address) :
    (l.filtered pattern kind color address).untouched = l.untouched := by
  obtain ⟨_, _, _, _, hfiltered⟩ := l.filtered_frame pattern kind color address
  rw [hfiltered]
  rfl

/-- What a filter finds, -/
theorem finds_congr (f : LineFilter) (h : l.untouched = m.untouched) : f.finds l = f.finds m := by
  have htext : l.text = m.text := congrArg Prod.fst h
  rw [LineFilter.finds, LineFilter.finds, htext]

/-- and what it lets pass, it decides by what no filter touches. -/
theorem passes_congr (f : LineFilter) (h : l.untouched = m.untouched) :
    f.passes l = f.passes m := by
  have hstart : l.beginSection = m.beginSection := congrArg (·.2.2) h
  rw [LineFilter.passes, LineFilter.passes, finds_congr f h, hstart]

/-- A filter settles on a line by whether it finds it. -/
theorem filtered_eq_settle (f : LineFilter) (color : Color) (l : Line) :
    ∃ fields highlights, l.filtered (some f.pattern) f.kind color none =
      f.kind.settle (f.finds l) { l with fields, highlights } := by
  obtain ⟨fields, highlights, hmarked⟩ := l.marked_frame (some f.pattern) color none
  refine ⟨fields, highlights, ?_⟩
  rw [filtered, hmarked, isFound_eq]
  rfl

theorem visible_filtered_eq (h : f.kind = .required ∨ f.kind = .remove) (color : Color)
    (l : Line) :
    (l.filtered (some f.pattern) f.kind color none).visible = (l.visible && f.passes l) := by
  obtain ⟨_, _, hfiltered⟩ := filtered_eq_settle f color l
  rw [hfiltered, LineFilter.passes]
  rcases h with hkind | hkind
  · rw [hkind]
    rfl
  · rw [hkind]
    cases l.beginSection <;> simp [FilterKind.settle]

theorem matched_filtered_eq (h : f.kind ≠ .remove) (color : Color) (l : Line) :
    (l.filtered (some f.pattern) f.kind color none).matched = (l.matched || f.finds l) := by
  obtain ⟨_, _, hfiltered⟩ := filtered_eq_settle f color l
  rw [hfiltered]
  cases hkind : f.kind with
  | remove => exact absurd hkind h
  | required | add | highlight => rfl

/-- A line that has not been matched is hidden by a filter that requires it to match
just as if it were looked at first and then hidden for want of a match. -/
theorem filtered_required_eq (h : l.matched = false) (p : Pattern) (color : Color) :
    let marked := l.filtered (some p) .highlight color none
    (if marked.visible && !marked.matched then some { marked with visible := false }
      else none).getD marked = l.filtered (some p) .required color none := by
  obtain ⟨_, _, hmarked⟩ := l.marked_frame (some p) color none
  simp only [filtered, hmarked, FilterKind.settle]
  cases l.isFound (some p) none <;> cases l.visible <;> simp [h]

end Line

namespace Script

/-! ## All lines and many filters -/

/-- The log after filters. -/
def filterAll (world : World) (w : Workspace) (fs : List LineFilter) : Log :=
  (performAll world w (fs.map (·.directive))).1.workspace.log

theorem filterAll_nil (world : World) (w : Workspace) : filterAll world w [] = w.log := rfl

theorem filterAll_cons (world : World) (w : Workspace) (f : LineFilter) (fs : List LineFilter) :
    filterAll world w (f :: fs) = filterAll world (step world w f.directive).workspace fs := by
  rw [filterAll, List.map_cons, performAll_cons_of_done rfl]
  rfl

theorem log_step_filter (world : World) (w : Workspace) (f : LineFilter) :
    (step world w f.directive).workspace.log = w.log.map fun l =>
      l.filtered (some f.pattern) f.kind w.settings.color none := rfl

/-- Filters are all performed: none meets a problem. -/
theorem problem_filterAll (world : World) (w : Workspace) (fs : List LineFilter) :
    (performAll world w (fs.map (·.directive))).1.problem = none := by
  induction fs generalizing w with
  | nil => rfl
  | cons f fs ih =>
    rw [List.map_cons, performAll_cons_of_done rfl]
    exact ih _

/-- **A line is shown** after filters that hide lines if all of them let it pass. -/
theorem visible_filterAll (h : ∀ f ∈ fs, f.kind = .required ∨ f.kind = .remove) (world : World)
    (w : Workspace) :
    (filterAll world w fs).map (·.visible) =
      w.log.map fun l => l.visible && fs.all (·.passes l) := by
  induction fs generalizing w with
  | nil => simp [filterAll_nil]
  | cons f fs ih =>
    obtain ⟨hf, hfs⟩ := List.forall_mem_cons.mp h
    rw [filterAll_cons, ih hfs, log_step_filter, List.map_map]
    refine List.map_congr_left fun l _ => ?_
    have hpasses : ∀ g : LineFilter, g.passes
        (l.filtered (some f.pattern) f.kind w.settings.color none) = g.passes l := fun g =>
      Line.passes_congr g (l.untouched_filtered ..)
    simp only [Function.comp_apply, Line.visible_filtered_eq hf, hpasses, List.all_cons,
      Bool.and_assoc]

/-- **A line has been matched** after filters that match lines if one of them finds it. -/
theorem matched_filterAll (h : ∀ f ∈ fs, f.kind ≠ .remove) (world : World) (w : Workspace) :
    (filterAll world w fs).map (·.matched) =
      w.log.map fun l => l.matched || fs.any (·.finds l) := by
  induction fs generalizing w with
  | nil => simp [filterAll_nil]
  | cons f fs ih =>
    obtain ⟨hf, hfs⟩ := List.forall_mem_cons.mp h
    rw [filterAll_cons, ih hfs, log_step_filter, List.map_map]
    refine List.map_congr_left fun l _ => ?_
    have hfinds : ∀ g : LineFilter, g.finds
        (l.filtered (some f.pattern) f.kind w.settings.color none) = g.finds l := fun g =>
      Line.finds_congr g (l.untouched_filtered ..)
    simp only [Function.comp_apply, Line.matched_filtered_eq hf, hfinds, List.any_cons,
      Bool.or_assoc]

/-! ## What filters leave alone -/

theorem untouched_filterLines (pattern : Option Pattern) (kind : FilterKind) (color : Color)
    (address : Option Address) (log : Log) :
    (log.filterLines pattern kind color address).2.map Line.untouched =
      log.map Line.untouched := by
  rw [Log.filterLines, List.map_map]
  exact List.map_congr_left fun l _ => l.untouched_filtered _ kind color address

theorem untouched_hideUnmatched (log : Log) :
    log.hideUnmatched.2.map Line.untouched = log.map Line.untouched := by
  rw [Log.hideUnmatched, Log.updateAll, Log.update, List.map_map]
  refine List.map_congr_left fun l _ => ?_
  rw [Function.comp_apply]
  split <;> rfl

/-- Nor does a filter of sections touch it. -/
theorem untouched_filterSections (p : Pattern) (kind : FilterKind) (log : Log) :
    (log.filterSections p kind).2.map Line.untouched = log.map Line.untouched := by
  have hsection : ∀ s : Log, (Log.filterSection p kind s).map Line.untouched =
      s.map Line.untouched := by
    intro s
    by_cases h : Log.Keeps p kind s
    · rw [Log.filterSection_of_keeps h]
    · rw [Log.filterSection_of_not_keeps h, Log.hide, List.map_map]
      rfl
  calc (log.filterSections p kind).2.map Line.untouched
      = log.sections.flatMap fun s => (Log.filterSection p kind s).map Line.untouched :=
        List.map_flatMap
    _ = log.sections.flatMap fun s => s.map Line.untouched := by simp only [hsection]
    _ = log.map Line.untouched := by
        rw [List.flatMap_def, ← List.map_flatten, (Log.sectioned_sections log).flatten]

/-- The directive filters lines, or sections of them. -/
inductive Filters : Directive → Prop
  | filter (kind : FilterKind) (p : Pattern) : Filters (.filter kind p)
  | hideUnmatched : Filters .hideUnmatched
  | today : Filters .today
  | sed (address : Option Address) (kind : FilterKind) : Filters (.sed address (.filter kind))
  | filterSections (keep : Bool) (p : Pattern) : Filters (.filterSections keep p)

theorem untouched_step (h : Filters d) (world : World) (w : Workspace) :
    (step world w d).workspace.log.map Line.untouched = w.log.map Line.untouched := by
  cases h with
  | filter kind p => exact untouched_filterLines (some p) kind w.settings.color none w.log
  | hideUnmatched => exact untouched_hideUnmatched w.log
  | today =>
    rw [step_of_changesLog rfl, Directive.perform]
    split
    · exact untouched_filterLines _ .required w.settings.color none w.log
    · rfl
  | sed address kind => exact untouched_filterLines none kind w.settings.color address w.log
  | filterSections keep p => exact untouched_filterSections p _ w.log

/-- **No filters touch** the texts of lines, their numbers, where sections start, or the places
of the lines. -/
theorem untouched_performAll (h : ∀ d ∈ ds, Filters d) (world : World) (w : Workspace) :
    (performAll world w ds).1.workspace.log.map Line.untouched = w.log.map Line.untouched := by
  induction ds generalizing w with
  | nil => rfl
  | cons d ds ih =>
    obtain ⟨hd, hds⟩ := List.forall_mem_cons.mp h
    rcases hp : (step world w d).problem with _ | problem
    · rw [performAll_cons_of_done hp, ih hds, untouched_step hd]
    · rw [performAll_cons_of_problem hp, untouched_step hd]

/-- **To look for a pattern and hide what is not matched** is to require the pattern, where
nothing has been matched before. -/
theorem performAll_highlight_hideUnmatched (h : ∀ l ∈ w.log, l.matched = false) (world : World)
    (p : Pattern) :
    (performAll world w [.filter .highlight p, .hideUnmatched]).1.workspace =
      (performAll world w [.filter .required p]).1.workspace := by
  have hlog : (w.log.filterLines (some p) .highlight w.settings.color none).2.hideUnmatched.2 =
      (w.log.filterLines (some p) .required w.settings.color none).2 := by
    rw [Log.hideUnmatched, Log.updateAll, Log.update, Log.filterLines, List.map_map]
    exact List.map_congr_left fun l hl => Line.filtered_required_eq (h l hl) p w.settings.color
  exact congrArg (Workspace.mk · { w.settings with projection := none }) hlog

/-- **Filters of lines combine in any order.** Filters that require or remove matches may be
given in any order, and a line is shown afterwards if it was shown and all of them let it pass, as
the start of a section passes those that remove. Filters that require, add or highlight matches
may be given in any order, and a line has been matched afterwards if it had been or one of them
finds it. No filters touch texts, numbers, starts of sections, or places. And where no line has been
matched, to highlight the matches of a pattern and hide what is not matched is to require the
pattern. -/
theorem filters_in_any_order (world : World) (w : Workspace) :
    (∀ fs : List LineFilter, (performAll world w (fs.map (·.directive))).1.problem = none) ∧
    (∀ fs gs : List LineFilter, fs.Perm gs → (∀ f ∈ fs, f.kind = .required ∨ f.kind = .remove) →
      (filterAll world w fs).map (·.visible) =
          w.log.map (fun l => l.visible && fs.all (·.passes l)) ∧
        (filterAll world w fs).map (·.visible) = (filterAll world w gs).map (·.visible)) ∧
    (∀ fs gs : List LineFilter, fs.Perm gs → (∀ f ∈ fs, f.kind ≠ .remove) →
      (filterAll world w fs).map (·.matched) =
          w.log.map (fun l => l.matched || fs.any (·.finds l)) ∧
        (filterAll world w fs).map (·.matched) = (filterAll world w gs).map (·.matched)) ∧
    (∀ ds : List Directive, (∀ d ∈ ds, Filters d) →
      (performAll world w ds).1.workspace.log.map Line.untouched = w.log.map Line.untouched) ∧
    ((∀ l ∈ w.log, l.matched = false) → ∀ p : Pattern,
      (performAll world w [.filter .highlight p, .hideUnmatched]).1.workspace =
        (performAll world w [.filter .required p]).1.workspace) := by
  refine ⟨problem_filterAll world w, fun fs gs hperm hfs => ?_, fun fs gs hperm hfs => ?_,
    fun ds hds => untouched_performAll hds world w,
    fun h p => performAll_highlight_hideUnmatched h world p⟩
  · have hgs : ∀ g ∈ gs, g.kind = .required ∨ g.kind = .remove := fun g hg =>
      hfs g (hperm.mem_iff.mpr hg)
    refine ⟨visible_filterAll hfs world w, ?_⟩
    rw [visible_filterAll hfs, visible_filterAll hgs]
    simp only [hperm.all_eq]
  · have hgs : ∀ g ∈ gs, g.kind ≠ .remove := fun g hg => hfs g (hperm.mem_iff.mpr hg)
    refine ⟨matched_filterAll hfs world w, ?_⟩
    rw [matched_filterAll hfs, matched_filterAll hgs]
    simp only [hperm.any_eq]

/-- What is required is removed as well, but for the line at which a section starts. -/
theorem filters_in_any_order_of_start :
    let world : World := ⟨Files.empty [], ⟨0, 0⟩, 0, none⟩
    let w : Workspace :=
      ⟨[{ Line.ofText "a" 1 with beginSection := true }, Line.ofText "b" 2, Line.ofText "a" 3],
        Settings.initial⟩
    ∃ p, Pattern.ofSource "a" = .ok p ∧
      let fs : List LineFilter := [⟨.required, p⟩, ⟨.remove, p⟩]
      let gs : List LineFilter := [⟨.highlight, p⟩, ⟨.required, p⟩]
      let ds : List Directive := [.filter .add p, .filterSections false p]
      (fs.Perm fs.reverse ∧ (∀ f ∈ fs, f.kind = .required ∨ f.kind = .remove) ∧
        (filterAll world w fs).map (·.visible) = [true, false, false] ∧
        (filterAll world w fs.reverse).map (·.visible) = [true, false, false]) ∧
      (gs.Perm gs.reverse ∧ (∀ f ∈ gs, f.kind ≠ .remove) ∧
        (filterAll world w gs).map (·.matched) = [true, false, true] ∧
        (filterAll world w gs.reverse).map (·.matched) = [true, false, true]) ∧
      ((∀ d ∈ ds, Filters d) ∧ (performAll world w ds).1.workspace.log.map Line.untouched =
        [("a", 1, true), ("b", 2, false), ("a", 3, false)]) ∧
      (∀ l ∈ w.log, l.matched = false) ∧
        (performAll world w [.filter .highlight p, .hideUnmatched]).1.workspace =
          (performAll world w [.filter .required p]).1.workspace := by
  intro world w
  have hfound : (Pattern.ofSource "a").toOption.map
      (fun p => (p.hasMatch ['a'], p.hasMatch ['b'])) = some (true, false) := by decide +kernel
  obtain ⟨p, hp, hmatch⟩ := Pattern.exists_ofSource hfound
  obtain ⟨ha, hb⟩ := Prod.mk.inj hmatch
  obtain ⟨-, hvisible, hmatched, huntouched, hhide⟩ := filters_in_any_order world w
  refine ⟨p, hp, ?_⟩
  intro fs gs ds
  have hperm : fs.Perm fs.reverse := fs.reverse_perm.symm
  have hfs : ∀ f ∈ fs, f.kind = .required ∨ f.kind = .remove := by simp [fs]
  have hgs : ∀ f ∈ gs, f.kind ≠ .remove := by simp [gs]
  have hds : ∀ d ∈ ds, Filters d := List.forall_mem_cons.mpr ⟨.filter .add p,
    List.forall_mem_cons.mpr ⟨.filterSections false p, List.forall_mem_nil _⟩⟩
  have hlog : ∀ l ∈ w.log, l.matched = false := by decide
  obtain ⟨hshown, hshown'⟩ := hvisible fs fs.reverse hperm hfs
  obtain ⟨hany, hany'⟩ := hmatched gs gs.reverse gs.reverse_perm.symm hgs
  have hshows : (filterAll world w fs).map (·.visible) = [true, false, false] := by
    rw [hshown]
    simp [w, fs, LineFilter.passes, LineFilter.finds, Line.ofText, ha, hb]
  have hfinds : (filterAll world w gs).map (·.matched) = [true, false, true] := by
    rw [hany]
    simp [w, gs, LineFilter.finds, Line.ofText, ha, hb]
  exact ⟨⟨hperm, hfs, hshows, hshown'.symm.trans hshows⟩,
    ⟨gs.reverse_perm.symm, hgs, hfinds, hany'.symm.trans hfinds⟩,
    ⟨hds, huntouched ds hds⟩, hlog, hhide hlog p⟩

end Script

end LogSift
