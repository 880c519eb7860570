import LogSift.Proofs.Log.Shown
import LogSift.Proofs.Pattern.Spans
import LogSift.Proofs.Script.Frame
import LogSift.Proofs.Script.Pieces
/-!
# Chopping early

A chop removes what is hidden for good, so it matters where it stands if
lines may be shown again, or if their numbers are looked at, which it
changes. Directives that do neither (`Directive.Narrowing`) cannot tell
whether the hidden lines are still there: workspaces that show the same
(`Workspace.Alike`) show the same afterwards (`step_alike`), and a chop on
one side only does not change that. So in a script of such directives that
ends with a chop, others may be put anywhere (`chop_early`).
-/


namespace LogSift

variable {d : Directive} {ds es : List Directive} {action : SedAction}
variable {address : Option Address} {world : World} {v w : Workspace} {script other : String}

/-! ## Directives that hidden lines do not matter to -/

/-- The stream edit goes line by line, and shows no hidden line. -/
inductive SedAction.Narrowing : SedAction → Prop
  | remove : Narrowing (.filter .remove)
  | highlight : Narrowing (.filter .highlight)
  | replace (pattern : Pattern) (replacement : String) (all : Bool) :
      Narrowing (.replace pattern replacement all)
  | change (text : String) : Narrowing (.change text)
  | delete : Narrowing .delete

/-- **The directive cannot tell** whether hidden lines are still there: it goes
line by line, looks at no number, and shows no hidden line. -/
inductive Directive.Narrowing : Directive → Prop
  | filter {kind : FilterKind} (pattern : Pattern) :
      kind ≠ .add → Narrowing (.filter kind pattern)
  | hideUnmatched : Narrowing .hideUnmatched
  | keyValues (pattern : Pattern) : Narrowing (.keyValues pattern)
  | divideByPattern (pattern : Pattern) : Narrowing (.divideByPattern pattern)
  | color (color : Color) : Narrowing (.color color)
  | truncate (characters : Nat) : Narrowing (.truncate characters)
  /-- Without an address or by a pattern. -/
  | sed {address : Option Address} {action : SedAction} :
      (address = none ∨ ∃ p, address = some (.matching p)) → action.Narrowing →
      Narrowing (.sed address action)

theorem SedAction.Narrowing.narrows (h : action.Narrowing) (haddress : Line.Unranged address)
    (color : Color) : Log.Narrows fun log => (action.apply address color log).2 := by
  cases h with
  | remove | highlight => exact Log.narrows_filterLines none color (by decide) haddress
  | replace p replacement all => exact Log.narrows_replace p replacement all haddress
  | change text => exact Log.narrows_change text color haddress
  | delete => exact Log.narrows_delete haddress

theorem Line.unranged_none : Line.Unranged none := fun _ h => nomatch h

theorem Line.unranged_of (h : address = none ∨ ∃ p, address = some (.matching p)) :
    Line.Unranged address := by
  rcases h with rfl | ⟨p, rfl⟩
  · exact unranged_none
  · exact fun _ hmatching => Option.some.inj hmatching ▸ rfl

/-- Such a directive sets the color, or narrows the log in a way that the
color tells. It meets no problem. -/
theorem Directive.Narrowing.performs (h : d.Narrowing) :
    (∃ c, d = .color c) ∨
      d.changesLog = true ∧ ∀ color, ∃ f, Log.Narrows f ∧ ∀ world w, w.settings.color = color →
        (d.perform world w).problem = none ∧ (d.perform world w).workspace.log = f w.log := by
  cases h with
  | color c => exact Or.inl ⟨c, rfl⟩
  | filter p hkind =>
    exact Or.inr ⟨rfl, fun color => ⟨_, Log.narrows_filterLines (some p) color hkind
      Line.unranged_none, fun world w hcolor => ⟨rfl, by rw [← hcolor]; rfl⟩⟩⟩
  | hideUnmatched =>
    exact Or.inr ⟨rfl, fun _ => ⟨_, Log.narrows_hideUnmatched, fun _ _ _ => ⟨rfl, rfl⟩⟩⟩
  | keyValues p =>
    exact Or.inr ⟨rfl, fun _ => ⟨_, Log.narrows_parseFields p, fun _ _ _ => ⟨rfl, rfl⟩⟩⟩
  | divideByPattern p =>
    exact Or.inr ⟨rfl, fun color => ⟨_, Log.narrows_divideByPattern p color,
      fun world w hcolor => ⟨rfl, by rw [← hcolor]; rfl⟩⟩⟩
  | truncate characters =>
    exact Or.inr ⟨rfl, fun _ => ⟨_, Log.narrows_truncate characters, fun _ _ _ => ⟨rfl, rfl⟩⟩⟩
  | sed haddress haction =>
    exact Or.inr ⟨rfl, fun color => ⟨_, haction.narrows (Line.unranged_of haddress) color,
      fun world w hcolor => ⟨rfl, by rw [← hcolor]; rfl⟩⟩⟩

/-! ## Workspaces that show the same -/

/-- **The workspaces show the same**, and have the same settings but for the
projection. -/
structure Workspace.Alike (v w : Workspace) : Prop where
  shown : v.log.shown = w.log.shown
  settings : v.forgetProjection.settings = w.forgetProjection.settings

namespace Workspace.Alike

theorem refl (w : Workspace) : w.Alike w := ⟨rfl, rfl⟩

theorem color (h : v.Alike w) : v.settings.color = w.settings.color :=
  have hcolor : v.forgetProjection.settings.color = w.forgetProjection.settings.color :=
    congrArg Settings.color h.settings
  hcolor

end Workspace.Alike

namespace Script

open Workspace

/-- **Directives that cannot tell** whether hidden lines are there keep
workspaces alike. -/
theorem step_alike (hd : d.Narrowing) (h : v.Alike w) (world : World) :
    (step world v d).problem = none ∧ (step world w d).problem = none ∧
      (step world v d).workspace.Alike (step world w d).workspace := by
  rcases hd.performs with ⟨c, rfl⟩ | ⟨hlog, hperform⟩
  · refine ⟨rfl, rfl, h.shown, ?_⟩
    exact congrArg (fun s : Settings => { s with color := c }) h.settings
  · -- the colors are the same, and so both logs are narrowed by the same operation
    obtain ⟨f, hf, hperformed⟩ := hperform v.settings.color
    obtain ⟨hproblem, hv⟩ := hperformed world v.forgetProjection rfl
    obtain ⟨hproblem', hw⟩ := hperformed world w.forgetProjection h.color.symm
    rw [step_of_changesLog hlog, step_of_changesLog hlog]
    refine ⟨hproblem, hproblem', ?_, ?_⟩
    · rw [hv, hw]
      exact hf.shown_congr h.shown
    · simp only [Workspace.forgetProjection, Directive.perform_settings hlog]
      exact h.settings

/-- **A chop leaves what is shown.** -/
theorem step_chop_alike (h : v.Alike w) (world : World) :
    (step world v .chop).problem = none ∧ (step world v .chop).workspace.Alike w :=
  ⟨rfl, (Log.shown_chop v.log).trans h.shown, h.settings⟩

/-- **After a chop on both sides** workspaces that have shown the same are the
same. -/
theorem step_chop_congr (h : v.Alike w) (world : World) :
    (step world v .chop).workspace = (step world w .chop).workspace := by
  have hlog : v.log.chop.2 = w.log.chop.2 := by
    rw [Log.chop_snd, Log.chop_snd, h.shown]
  have hchop : ∀ u : Workspace, (step world u .chop).workspace =
      ⟨u.log.chop.2, u.forgetProjection.settings⟩ := fun _ => rfl
  rw [hchop, hchop, hlog, h.settings]

/-! ## Scripts with more chops -/

/-- **The directives with chops put in between**, before the first, and after
the last. -/
inductive Chopped : List Directive → List Directive → Prop
  | nil : Chopped [] []
  | cons (d : Directive) {ds es : List Directive} : Chopped ds es → Chopped (d :: ds) (d :: es)
  | chop {ds es : List Directive} : Chopped ds es → Chopped ds (.chop :: es)

/-- Chops are valid, so they change nothing about that. -/
theorem Chopped.valid_iff (h : Chopped ds es) :
    (∀ d ∈ es, d.validate = .ok ()) ↔ ∀ d ∈ ds, d.validate = .ok () := by
  induction h with
  | nil => exact Iff.rfl
  | cons d _ ih => rw [List.forall_mem_cons, List.forall_mem_cons, ih]
  | chop _ ih =>
    rw [List.forall_mem_cons, ih]
    exact and_iff_right rfl

/-- **The directives lead from workspaces that are alike to such workspaces**,
though on one side there are more chops. -/
theorem Chopped.leads (hes : Chopped ds es) (hds : ∀ d ∈ ds, d.Narrowing) (h : v.Alike w)
    (world : World) :
    ∃ v' w', Leads world v es v' ∧ Leads world w ds w' ∧ v'.Alike w' := by
  induction hes generalizing v w with
  | nil => exact ⟨v, w, leads_nil.mpr rfl, leads_nil.mpr rfl, h⟩
  | cons d _ ih =>
    obtain ⟨hd, hds⟩ := List.forall_mem_cons.mp hds
    obtain ⟨hproblem, hproblem', halike⟩ := step_alike hd h world
    obtain ⟨v', w', hv', hw', halike'⟩ := ih hds halike
    exact ⟨v', w', leads_cons.mpr ⟨hproblem, hv'⟩, leads_cons.mpr ⟨hproblem', hw'⟩, halike'⟩
  | chop _ ih =>
    -- only the side with more chops takes a step
    obtain ⟨hproblem, halike⟩ := step_chop_alike h world
    obtain ⟨v', w', hv', hw', halike'⟩ := ih hds halike
    exact ⟨v', w', leads_cons.mpr ⟨hproblem, hv'⟩, hw', halike'⟩

/-- And if a chop ends both, they lead to the same workspace. -/
theorem Chopped.exists_leads (hes : Chopped ds es) (hds : ∀ d ∈ ds, d.Narrowing) (world : World)
    (w : Workspace) :
    ∃ v, Leads world w (es ++ [.chop]) v ∧ Leads world w (ds ++ [.chop]) v := by
  obtain ⟨v', w', hv', hw', halike⟩ := hes.leads hds (Alike.refl w) world
  have hlast : ∀ u : Workspace, Leads world u [.chop] (step world u .chop).workspace :=
    fun u => leads_cons.mpr ⟨rfl, leads_nil.mpr rfl⟩
  refine ⟨(step world w' .chop).workspace, leads_append.mpr ⟨v', hv', ?_⟩,
    leads_append.mpr ⟨w', hw', hlast w'⟩⟩
  rw [← step_chop_congr halike]
  exact hlast v'

/-- **It does not matter how early lines are chopped.** If a script ends with a
chop and none of its directives before that can tell whether hidden lines
are there, then with more chops among them it ends with the same lines and
settings, and succeeds like it, if all the directives are valid. -/
theorem chop_early (hds : ∀ d ∈ ds, d.Narrowing) (hes : Chopped ds es)
    (hscript : parse script = .ok (ds ++ [.chop])) (hother : parse other = .ok (es ++ [.chop]))
    (world : World) (w : Workspace) :
    (run world other w).workspace = (run world script w).workspace ∧
      (run world other w).success = (run world script w).success ∧
      ((run world script w).success = true ↔ ∀ d ∈ ds, d.validate = .ok ()) := by
  have hvalidity : ∀ fs : List Directive,
      (∀ d ∈ fs ++ [.chop], d.validate = .ok ()) ↔ ∀ d ∈ fs, d.validate = .ok () := fun fs => by
    rw [List.forall_mem_append, List.forall_mem_singleton]
    exact and_iff_left rfl
  by_cases hvalid : ∀ d ∈ ds, d.validate = .ok ()
  · have haccepted : Accepted script (ds ++ [.chop]) :=
      ⟨hscript, by simp, firstInvalid?_eq_none_iff.mpr ((hvalidity ds).mpr hvalid)⟩
    have haccepted' : Accepted other (es ++ [.chop]) :=
      ⟨hother, by simp,
        firstInvalid?_eq_none_iff.mpr ((hvalidity es).mpr (hes.valid_iff.mpr hvalid))⟩
    obtain ⟨v, hmore, hleads⟩ := hes.exists_leads hds world w
    obtain ⟨hworkspace, hsuccess⟩ := hleads.run_accepted haccepted
    obtain ⟨hworkspace', hsuccess'⟩ := hmore.run_accepted haccepted'
    rw [hworkspace, hworkspace', hsuccess, hsuccess']
    exact ⟨rfl, rfl, iff_of_true rfl hvalid⟩
  · -- both scripts are refused, and leave the workspace alone
    obtain ⟨reports, hrun⟩ :=
      run_of_not_valid hscript (fun h => hvalid ((hvalidity ds).mp h)) world w
    obtain ⟨reports', hrun'⟩ :=
      run_of_not_valid hother (fun h => hvalid (hes.valid_iff.mp ((hvalidity es).mp h))) world w
    rw [hrun, hrun']
    exact ⟨rfl, rfl, iff_of_false (by simp [refuse, finish]) hvalid⟩

/-- A line is hidden before the script, and one does not count as matched; the
other two are cut short. -/
theorem chop_early_of_hidden :
    let world : World := ⟨Files.empty [], ⟨0, 0⟩, 0, none⟩
    let w : Workspace :=
      ⟨{ Line.ofText "a" 1 with visible := false } :: [Line.ofText "ab" 2, Line.ofText "b" 3,
        Line.ofText "ca" 4], Settings.initial⟩
    let script := "~ a\ntruncate 1\n==\nchop"
    let other := "chop\n~ a\ntruncate 1\nchop\n==\nchop"
    ∃ ds es, (∀ d ∈ ds, d.Narrowing) ∧ Chopped ds es ∧ parse script = .ok (ds ++ [.chop]) ∧
      parse other = .ok (es ++ [.chop]) ∧
      (run world other w).workspace = (run world script w).workspace ∧
      (run world script w).workspace.log.map (fun l => (l.text, l.number)) =
        [("a", 1), ("c", 2)] := by
  intro world w script other
  have hfound : (Pattern.ofSource "a").toOption.map (·.source) = some "a" := by decide +kernel
  obtain ⟨p, hp, -⟩ := Pattern.exists_ofSource hfound
  have hfilter : parseLine "~ a" = .ok (some (.filter .highlight p)) := by
    have hline : parseLine "~ a" = ((Pattern.ofSource "a").mapError .rejected >>= fun p =>
        .ok (some (.filter .highlight p))) := by rfl
    rw [hline, hp]
    rfl
  have hcut : parseLine "truncate 1" = .ok (some (.truncate 1)) := by rfl
  have hhide : parseLine "==" = .ok (some .hideUnmatched) := by rfl
  have hchop : parseLine "chop" = .ok (some .chop) := by rfl
  let ds : List Directive := [.filter .highlight p, .truncate 1, .hideUnmatched]
  let es : List Directive :=
    [.chop, .filter .highlight p, .truncate 1, .chop, .hideUnmatched]
  have hscript : parse script = .ok (ds ++ [.chop]) := by
    have hcontent : Text.content script.toList =
        ["~ a".toList, "truncate 1".toList, "==".toList, "chop".toList] := by decide
    rw [parse_eq_ok_iff, hcontent]
    exact .text hfilter (.text hcut (.text hhide (.text hchop .nil)))
  have hother : parse other = .ok (es ++ [.chop]) := by
    have hcontent : Text.content other.toList =
        ["chop".toList, "~ a".toList, "truncate 1".toList, "chop".toList, "==".toList,
          "chop".toList] := by decide
    rw [parse_eq_ok_iff, hcontent]
    exact .text hchop (.text hfilter (.text hcut (.text hchop (.text hhide (.text hchop .nil)))))
  have hds : ∀ d ∈ ds, d.Narrowing := by
    intro d hd
    simp only [ds, List.mem_cons, List.not_mem_nil, or_false] at hd
    rcases hd with rfl | rfl | rfl
    · exact .filter p (by decide)
    · exact .truncate 1
    · exact .hideUnmatched
  have hes : Chopped ds es := .chop (.cons _ (.cons _ (.chop (.cons _ .nil))))
  obtain ⟨hworkspace, -, -⟩ := chop_early hds hes hscript hother world w
  exact ⟨ds, es, hds, hes, hscript, hother, hworkspace, by decide +kernel⟩

end Script

end LogSift
