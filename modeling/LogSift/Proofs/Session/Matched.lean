import LogSift.Proofs.Log.Matched
import LogSift.Proofs.Script.Loading
import LogSift.Proofs.Session.Steps
/-!
# What is hidden for want of a match

The directive that hides lines goes by what has been matched: it hides the
shown lines that no filter has left matched, whatever their highlights, and
changes nothing else (`hideUnmatched_exact`). A directive that is `InStep`
keeps matches and highlights in step, and as long as there are no others
these are the lines without highlights. A start of a section is
highlighted without having been matched, and hidden
(`not_hides_unhighlighted`).
-/


namespace LogSift

namespace Directive

/-- **Directives that keep matches and highlights in step.** A filter does if its pattern finds text,
or if it hides what it finds. A directive that marks sections, that changes texts, or that
highlights whole lines need not. -/
def InStep : Directive → Prop
  | filter kind p => kind = .remove ∨ p.FindsText
  | sed address (.filter kind) =>
    kind = .remove ∨ ∃ p, address.bind (·.pattern) = some p ∧ p.FindsText
  | sed _ .delete => True
  | sed _ _ | truncate _ | today | divideByPattern _ | divideByField _ => False
  | _ => True

theorem perform_inStep {w : Workspace} (h : w.log.InStep) {d : Directive} (hd : d.InStep)
    (world : World) : (d.perform world w).workspace.log.InStep := by
  cases d with
  | load pattern =>
    obtain ⟨texts, hlog⟩ :=
      Load.exists_load_eq_appendTexts world.files w.settings pattern w.log
    change (Load.load world.files w.settings pattern w.log).2.1.InStep
    rw [hlog]
    exact h.appendTexts texts
  | demo races seed => exact h.appendTexts _
  | require | exclude | clearFilters | limit | replace | color | dateFormat | query | sleep =>
    exact h
  | requireToday =>
    rw [perform]
    split <;> exact h
  | chop => exact Log.InStep.renumber fun l hl => h l (List.mem_filter.mp hl).1
  | clear => exact List.forall_mem_nil _
  | addField add known =>
    exact Log.forall_mem_addField (fun _ _ hl => hl.congr rfl rfl rfl rfl) h add known
  | keyValues p => exact Log.forall_mem_parseFields (fun _ _ hl => hl.congr rfl rfl rfl rfl) h p
  | sort fields => exact fun l hl => h l (List.mem_mergeSort.mp hl)
  | sed address action =>
    cases action with
    | filter kind =>
      refine h.filterLines (hd.imp_right ?_) w.settings.color
      rintro ⟨p, hp, hfinds⟩
      exact ⟨p, by rw [hp]; rfl, hfinds⟩
    | delete => exact Log.InStep.renumber fun l hl => h l (List.mem_filter.mp hl).1
    | replace | change | insert | append => exact absurd hd id
  | filter kind p => exact h.filterLines (hd.imp_right fun hfinds => ⟨p, rfl, hfinds⟩) _
  | hideUnmatched => exact Log.forall_mem_update_ite (fun _ hl => hl.hide) h
  | filterSections keep p => exact Log.forall_mem_filterSections (fun _ hl => hl.hide) h p _
  | duplicates threshold =>
    exact Log.forall_mem_detectDuplicates (fun _ _ hl => hl.congr rfl rfl rfl rfl)
      Line.inStep_ofText h threshold Text.kindOf
  | truncate | today | divideByPattern | divideByField => exact absurd hd id

end Directive

theorem Script.step_inStep {w : Workspace} (h : w.log.InStep) {d : Directive} (hd : d.InStep)
    (world : World) : (step world w d).workspace.log.InStep :=
  step_invariant (P := fun w => w.log.InStep) (fun _ h => h)
    (fun _ h => Directive.perform_inStep h hd world) h

namespace Session

/-- **Only directives that keep matches and highlights in step** are run. -/
def Step.InStep : Step → Prop
  | .run _ script => ∀ ds, Script.parse script = .ok ds → ∀ d ∈ ds, d.InStep
  | .undo => True

theorem after_inStep {steps : List Step} (hsteps : ∀ step ∈ steps, step.InStep)
    (settings : Settings) (budget : Nat) :
    ((start settings budget).after steps).workspace.log.InStep := by
  refine after_invariant_of_keeps (P := fun w => w.log.InStep) (fun step hstep => ?_)
    (List.forall_mem_nil _) budget
  have hstep := hsteps step hstep
  cases step with
  | run world script =>
    exact fun w hw => Script.run_invariant_of_parse (P := fun w => w.log.InStep)
      (fun ds hparse d hd w hw => Script.step_inStep hw (hstep ds hparse d hd) world) hw
  | undo => trivial

/-- **Hiding goes by what has been matched.** Whatever scripts have been run and taken back before,
`==` succeeds, and of the log it changes only that the lines that have not been matched are not
shown. Of the settings it changes only that no projection is kept. If only directives have been
run that keep matches and highlights in step, what it hides are the lines without highlights. -/
theorem hideUnmatched_exact (settings : Settings) (budget : Nat) (steps : List Step)
    (world : World) :
    let w := ((start settings budget).after steps).workspace
    let o := Script.run world "==" w
    o.success = true ∧ o.workspace.settings = { w.settings with projection := none } ∧
      o.workspace.log = (w.log.map fun l => if l.matched then l else { l with visible := false }) ∧
      ((∀ step ∈ steps, step.InStep) → o.workspace.log = w.log.hideUnhighlighted) := by
  intro w o
  have haccepted : Script.Accepted "==" [.hideUnmatched] := ⟨by rfl, by simp, rfl⟩
  have hrun : o = Script.execute world w [.hideUnmatched] := Script.run_of_accepted haccepted
  have hlog : o.workspace.log = w.log.hideUnmatched.2 := by
    rw [hrun]
    rfl
  refine ⟨by rw [hrun]; rfl, by rw [hrun]; rfl, ?_, fun hsteps => ?_⟩
  · rw [hlog, Log.hideUnmatched_eq_map]
  · rw [hlog, Log.hideUnmatched_eq_hideUnhighlighted (after_inStep hsteps settings budget)]

/-- Of two lines one has a match of a letter, and the other is hidden. -/
theorem hideUnmatched_exact_of_letter :
    let world : World :=
      { World.bare with files := (Files.empty []).write ["f"] (Text.Utf8.encode "a\nb") }
    let w := ((start Settings.initial 9).after
      [.run world "< f", .run world "~ a"]).workspace
    let o := Script.run world "==" w
    o.workspace.log = w.log.hideUnhighlighted ∧ w.log.map (·.visible) = [true, true] ∧
      o.workspace.log.map (·.visible) = [true, false] := by
  intro world w o
  have hsteps : ∀ step ∈ [Step.run world "< f", Step.run world "~ a"], step.InStep := by
    refine List.forall_mem_cons.mpr ⟨?_, List.forall_mem_singleton.mpr ?_⟩
    · intro ds hparse
      have hload : Script.parse "< f" = .ok [.load "f"] := by rfl
      obtain rfl := Except.ok.inj (hload.symm.trans hparse)
      exact List.forall_mem_singleton.mpr trivial
    · intro ds hparse
      have hfilter : (Script.parse "~ a").toOption.map (fun ds => ds.map fun d =>
          match d with
          | .filter _ p => p.takesFirst
          | _ => false) = some [true] := by decide +kernel
      rw [hparse] at hfilter
      obtain ⟨d, rfl, hd⟩ := List.map_eq_singleton_iff.mp (Option.some.inj hfilter)
      refine List.forall_mem_singleton.mpr ?_
      split at hd
      · exact Or.inr (Pattern.findsText_of_takesFirst hd)
      · cases hd
  obtain ⟨-, -, -, hstep⟩ := hideUnmatched_exact Settings.initial 9
    [.run world "< f", .run world "~ a"] world
  exact ⟨hstep hsteps, by decide +kernel, by decide +kernel⟩

/-- **It does not go by highlights.** The start of a section is highlighted, and is hidden as one of
the lines that have not been matched. -/
theorem not_hides_unhighlighted :
    ¬ ∀ (settings : Settings) (budget : Nat) (steps : List Step) (world : World),
      let w := ((start settings budget).after steps).workspace
      (Script.run world "==" w).workspace.log = w.log.hideUnhighlighted := by
  intro h
  let world : World :=
    { World.bare with files := (Files.empty []).write ["f"] (Text.Utf8.encode "a\nb") }
  have hshown := congrArg (List.map (·.visible))
    (h Settings.initial 9 [.run world "< f", .run world "/r a"] world)
  exact absurd hshown (by decide +kernel)

end Session

end LogSift
