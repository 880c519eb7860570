import LogSift.Proofs.Session.Steps
/-!
# Bounded and unbounded undo

`Unbounded` is a session that gives up no snapshot. A session with a
budget goes along with it: the snapshots it has are the newest of all
(`Refines`), so both answer every step alike until an undo asks for a
snapshot that has been given up (`bounded_refines_unbounded`). The newest
snapshot is never given up, so a script that has been run in part or in
full can be taken back at once, whatever the budget (`take_undo_of_run`).
-/


namespace LogSift

namespace Session

/-- A session that gives up no snapshot. -/
structure Unbounded where
  workspace : Workspace
  /-- All snapshots, the oldest first. -/
  snapshots : List Snapshot
  /-- The number of the next snapshot. -/
  nextId : Nat

namespace Unbounded

/-- A session without lines. -/
def start (settings : Settings) : Unbounded := ⟨⟨[], settings⟩, [], 1⟩

/-- Takes a step. -/
def take (u : Unbounded) : Step → Answer × Unbounded
  | .run world script =>
    let o := Script.run world script u.workspace
    match o.label with
    | none => (.ran o, u)
    | some label =>
      (.ran (o.recorded u.nextId label),
        ⟨o.workspace, u.snapshots ++ [⟨u.nextId, world.now, label, u.workspace⟩], u.nextId + 1⟩)
  | .undo =>
    match u.snapshots.getLast? with
    | none => (.undone none, u)
    | some t => (.undone (some t.label), ⟨t.workspace, u.snapshots.dropLast, u.nextId⟩)

/-- The session after some steps. -/
def after (u : Unbounded) (steps : List Step) : Unbounded :=
  steps.foldl (fun u step => (u.take step).2) u

/-- The answers of some steps. -/
def answers (u : Unbounded) : List Step → List Answer
  | [] => []
  | step :: rest => (u.take step).1 :: (u.take step).2.answers rest

@[simp] theorem after_nil (u : Unbounded) : u.after [] = u := rfl

@[simp] theorem after_cons (u : Unbounded) (step : Step) (rest : List Step) :
    u.after (step :: rest) = (u.take step).2.after rest := rfl

end Unbounded

variable {s : Session} {u : Unbounded} {world : World} {script label : String}

/-- No undo among the steps asks for a snapshot that has been given up:
where the history is empty nothing has been recorded that could be taken
back. -/
def Lossless (s : Session) (u : Unbounded) (steps : List Step) : Prop :=
  ∀ before after, steps = before ++ .undo :: after →
    (s.after before).history.snapshots = [] → (u.after before).snapshots = []

theorem lossless_nil : Lossless s u [] := by
  intro before after h
  simp at h

/-- Losslessness is a condition on the first step and on the others. -/
theorem lossless_cons {step : Step} {rest : List Step} :
    Lossless s u (step :: rest) ↔
      (step = .undo → s.history.snapshots = [] → u.snapshots = []) ∧
        Lossless (s.take step).2 (u.take step).2 rest := by
  constructor
  · intro h
    refine ⟨fun hstep => h [] rest (by simp [hstep]), fun before after hrest => ?_⟩
    exact h (step :: before) after (by simp [hrest])
  · rintro ⟨hhead, hrest⟩ before after heq
    cases before with
    | nil =>
      rw [List.nil_append, List.cons.injEq] at heq
      exact hhead heq.1
    | cons first before =>
      rw [List.cons_append, List.cons.injEq] at heq
      obtain ⟨rfl, heq⟩ := heq
      exact hrest before after heq

/-- **A bounded session goes along with an unbounded one**: they are at the
same workspace, and the bounded one has the newest of all snapshots. -/
structure Refines (s : Session) (u : Unbounded) : Prop where
  workspace : s.workspace = u.workspace
  suffix : s.history.snapshots <:+ u.snapshots
  nextId : s.history.nextId = u.nextId

/-- They run a script alike: what the bounded one gives up is old. -/
theorem Refines.take_run (h : Refines s u) (world : World) (script : String) :
    (s.take (.run world script)).1 = (u.take (.run world script)).1 ∧
      Refines (s.take (.run world script)).2 (u.take (.run world script)).2 := by
  rcases hlabel : (Script.run world script s.workspace).label with _ | label
  · have hu := hlabel
    rw [h.workspace] at hu
    simp only [take, run_of_label_none hlabel, Unbounded.take, hu, h.workspace, true_and]
    exact h
  · have hu := hlabel
    rw [h.workspace] at hu
    simp only [take, run_of_label_some hlabel, Unbounded.take, hu, h.workspace, h.nextId, true_and]
    -- what is kept is an end of what was there, and both put the same snapshot behind it
    obtain ⟨kept, hkept, heq⟩ := s.history.push_snapshots world.now label u.workspace
    refine ⟨rfl, ?_, by simp [h.nextId]⟩
    rw [heq, h.nextId]
    exact (List.suffix_append_inj_of_length_eq rfl).mpr ⟨hkept.trans h.suffix, rfl⟩

/-- **They undo alike** where the bounded one has a snapshot left, or
neither has any: the newest one is the same. -/
theorem Refines.take_undo (h : Refines s u)
    (hlossless : s.history.snapshots = [] → u.snapshots = []) :
    (s.take .undo).1 = (u.take .undo).1 ∧ Refines (s.take .undo).2 (u.take .undo).2 := by
  obtain ⟨older, holder⟩ := h.suffix
  rcases hlast : s.history.snapshots.getLast? with _ | t
  · -- only here might the unbounded one have a snapshot that the other has given up
    have hu : u.snapshots = [] := hlossless (List.getLast?_eq_none_iff.mp hlast)
    simp only [take, undo?, History.pop?_eq, hlast, Option.map_none, Unbounded.take, hu,
      List.getLast?_nil, true_and]
    exact h
  · have hu : u.snapshots.getLast? = some t := by
      rw [← holder, List.getLast?_append, hlast, Option.some_or]
    have hne : s.history.snapshots ≠ [] := by
      rintro hnil
      simp [hnil] at hlast
    simp only [take, undo?, History.pop?_eq, hlast, Option.map_some, Unbounded.take, hu, true_and]
    refine ⟨rfl, ⟨older, ?_⟩, h.nextId⟩
    rw [← holder, List.dropLast_append_of_ne_nil hne]

/-- **So they go along for any lossless steps**, and answer all of them
alike. -/
theorem Refines.after (h : Refines s u) {steps : List Step} (hlossless : Lossless s u steps) :
    Refines (s.after steps) (u.after steps) ∧ s.answers steps = u.answers steps := by
  induction steps generalizing s u with
  | nil => exact ⟨h, rfl⟩
  | cons step rest ih =>
    obtain ⟨hhead, hrest⟩ := lossless_cons.mp hlossless
    have htake : (s.take step).1 = (u.take step).1 ∧
        Refines (s.take step).2 (u.take step).2 := by
      cases step with
      | run world script => exact h.take_run world script
      | undo => exact h.take_undo (hhead rfl)
    obtain ⟨hafter, hanswers⟩ := ih htake.2 hrest
    exact ⟨hafter, by rw [answers, Unbounded.answers, htake.1, hanswers]⟩

/-- **A script that has a label is taken back at once**, to the workspace
before it. -/
theorem take_undo_of_run (h : (s.run world script).1.label = some label) :
    ((s.run world script).2.take .undo).1 = .undone (some label) ∧
      ((s.run world script).2.take .undo).2.workspace = s.workspace := by
  rcases hlabel : (Script.run world script s.workspace).label with _ | label'
  · rw [run_of_label_none hlabel, hlabel] at h
    cases h
  · rw [run_of_label_some hlabel] at h ⊢
    obtain rfl : label' = label := by simpa [Outcome.recorded, hlabel] using h
    obtain ⟨kept, -, hpush⟩ := s.history.push_snapshots world.now label' s.workspace
    have hlast : (s.history.push world.now label' s.workspace).snapshots.getLast? =
        some ⟨s.history.nextId, world.now, label', s.workspace⟩ := by
      rw [hpush, List.getLast?_concat]
    simp only [take, undo?, History.pop?_eq, hlast, Option.map_some, and_self]

/-- **Bounded undo is unbounded undo**, up to the first undo that asks for
a snapshot given up. Until then the workspaces and all answers are the
same, and the bounded history has the newest snapshots of the unbounded
one. Whatever the budget and whatever has been given up, a script with a
label, also one that has failed on its way, is taken back at once: the
undo answers with its label and brings back the log and the settings, the
projection at hand among them. -/
theorem bounded_refines_unbounded (settings : Settings) (budget : Nat) :
    (∀ steps, Lossless (start settings budget) (.start settings) steps →
      let s := (start settings budget).after steps
      let u := (Unbounded.start settings).after steps
      s.workspace = u.workspace ∧ s.history.snapshots <:+ u.snapshots ∧
        (start settings budget).answers steps = (Unbounded.start settings).answers steps) ∧
      ∀ steps world script label,
        let s := (start settings budget).after steps
        let ran := s.run world script
        ran.1.label = some label →
          (ran.2.take .undo).1 = .undone (some label) ∧
            (ran.2.take .undo).2.workspace = s.workspace := by
  refine ⟨fun steps hlossless => ?_, fun steps world script label h => take_undo_of_run h⟩
  have hstart : Refines (start settings budget) (.start settings) :=
    ⟨rfl, List.suffix_rfl, rfl⟩
  obtain ⟨hafter, hanswers⟩ := hstart.after hlossless
  exact ⟨hafter.workspace, hafter.suffix, hanswers⟩

/-- With room for a single line the second and the third script leave one
snapshot, the earlier ones given up, and an undo of the third goes back to
the lines the second has left. -/
theorem bounded_refines_unbounded_of_eviction :
    let world : World :=
      { World.bare with files := (Files.empty []).write ["a"] (Text.Utf8.encode "x\ny") }
    let steps : List Step := [.run world "< a", .run world "chop"]
    let s := (start Settings.initial 1).after steps
    let ran := s.run world "clear"
    ran.2.history.snapshots.length = 1 ∧
      (start Settings.initial 1).answers (steps ++ [.run world "clear", .undo]) =
        (Unbounded.start Settings.initial).answers (steps ++ [.run world "clear", .undo]) ∧
      (ran.2.take .undo).2.workspace = s.workspace := by
  intro world steps s ran
  obtain ⟨hrefines, hundo⟩ := bounded_refines_unbounded Settings.initial 1
  have hran : ran.2.history.snapshots.length = 1 := by decide +kernel
  have hlossless : Lossless (start Settings.initial 1) (.start Settings.initial)
      (steps ++ [.run world "clear", .undo]) := by
    refine lossless_cons.mpr ⟨by simp, lossless_cons.mpr ⟨by simp, lossless_cons.mpr ⟨by simp, ?_⟩⟩⟩
    refine lossless_cons.mpr ⟨fun _ hnil => ?_, lossless_nil⟩
    have hempty : ran.2.history.snapshots = [] := hnil
    rw [hempty] at hran
    cases hran
  refine ⟨hran, (hrefines _ hlossless).2.2, (hundo steps world "clear" "clear" ?_).2⟩
  decide +kernel

end Session

end LogSift
