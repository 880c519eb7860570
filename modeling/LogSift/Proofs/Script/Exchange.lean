import LogSift.Proofs.Script.Frame
import LogSift.Proofs.Script.Pieces
/-!
# Settings and the log are apart

A directive that works on the log reads of the settings at most the color
and the date format, unless it loads files (`EditsLog.perform_congr`). A
directive about lines that are loaded sets neither, nor looks at the log
(`SetsLoading.perform_forgotten`). So the two may be exchanged where they
stand next to each other in a script that succeeds: it succeeds just as
well, and ends with the same workspace (`settings_apart_from_log`).
-/


namespace LogSift

variable {world : World} {w v : Workspace} {x y d e : Directive}
variable {before after : List Directive}

namespace Directive

/-- **The directives about lines that are loaded**: what they set only
loading looks at. -/
inductive SetsLoading : Directive → Prop
  | require (p : Pattern) : SetsLoading (.require p)
  | exclude (p : Pattern) : SetsLoading (.exclude p)
  | requireToday : SetsLoading .requireToday
  | clearFilters : SetsLoading .clearFilters
  | limit (lines : Nat) : SetsLoading (.limit lines)
  | replace (old new : String) : SetsLoading (.replace old new)

/-- **The directives that work on the log** and do not load files. -/
structure EditsLog (d : Directive) : Prop where
  changesLog : d.changesLog = true
  ne_load : ∀ pattern, d ≠ .load pattern

/-- One of the directives is about lines that are loaded, and the other
works on the log and does not load any. -/
def Exchangeable (x y : Directive) : Prop :=
  x.SetsLoading ∧ y.EditsLog ∨ y.SetsLoading ∧ x.EditsLog

theorem SetsLoading.changesLog (h : d.SetsLoading) : d.changesLog = false := by
  cases h <;> rfl

/-- It leaves the settings alone that others read. -/
theorem SetsLoading.perform_kept (h : d.SetsLoading) (world : World) (w : Workspace) :
    (d.perform world w).workspace.settings.color = w.settings.color ∧
      (d.perform world w).workspace.settings.dateFormat = w.settings.dateFormat := by
  cases h with
  | require | exclude | clearFilters | limit | replace => exact ⟨rfl, rfl⟩
  | requireToday =>
    rw [perform]
    split <;> exact ⟨rfl, rfl⟩

/-- **What it sets does not depend on the log**, nor on the projection, which
it neither takes note of nor touches. -/
theorem SetsLoading.perform_forgotten (h : d.SetsLoading) (world : World) (w : Workspace)
    (log : Log) :
    (d.perform world ⟨log, w.forgetProjection.settings⟩).workspace.settings =
        (d.perform world w).workspace.forgetProjection.settings ∧
      (d.perform world ⟨log, w.forgetProjection.settings⟩).problem =
        (d.perform world w).problem := by
  cases h with
  | require | exclude | clearFilters | limit | replace => exact ⟨rfl, rfl⟩
  | requireToday =>
    have hdate : w.forgetProjection.settings.dateFormat = w.settings.dateFormat := rfl
    simp only [perform, hdate]
    split <;> exact ⟨rfl, rfl⟩

/-- **What a directive makes of the log** depends on the log, the color and
the date format alone, unless it loads files. -/
theorem EditsLog.perform_congr (h : d.EditsLog) (hlog : w.log = v.log)
    (hcolor : w.settings.color = v.settings.color)
    (hdate : w.settings.dateFormat = v.settings.dateFormat) (world : World) :
    (d.perform world w).workspace.log = (d.perform world v).workspace.log ∧
      (d.perform world w).problem = (d.perform world v).problem := by
  obtain ⟨hd, hne⟩ := h
  cases d with
  | require | exclude | requireToday | clearFilters | limit | replace | color | dateFormat
  | query | sleep => cases hd
  | load pattern => exact absurd rfl (hne pattern)
  | clear => exact ⟨rfl, rfl⟩
  | demo | chop | truncate | addField | keyValues | sort | sed | filter | hideUnmatched
  | divideByPattern | divideByField | filterSections | duplicates =>
    refine ⟨?_, rfl⟩
    simp only [perform, Workspace.demo, Workspace.filter, Workspace.divide,
      Workspace.filterSections, Workspace.summarize, Performance.ofLog, Performance.done,
      hlog, hcolor]
  | today =>
    simp only [perform, hdate]
    split
    · refine ⟨?_, rfl⟩
      simp only [Workspace.filter, Performance.ofLog, Performance.done, hlog, hcolor]
    · exact ⟨hlog, rfl⟩

end Directive

theorem Workspace.eq_of_parts (hlog : w.log = v.log) (hsettings : w.settings = v.settings) :
    w = v := by
  cases w
  cases v
  simp_all

namespace Script

/-- **In either order the two do the same**, and meet the same problems:
neither changes what the other reads. -/
theorem step_exchange (hd : d.SetsLoading) (he : e.EditsLog) (world : World) (w : Workspace) :
    (step world (step world w d).workspace e).workspace =
        (step world (step world w e).workspace d).workspace ∧
      (step world (step world w d).workspace e).problem = (step world w e).problem ∧
      (step world (step world w e).workspace d).problem = (step world w d).problem := by
  rw [step_of_not_changesLog hd.changesLog, step_of_not_changesLog hd.changesLog,
    step_of_changesLog he.changesLog, step_of_changesLog he.changesLog]
  let set := (d.perform world w).workspace
  let edited := (e.perform world w.forgetProjection).workspace
  -- the log is made of the same as without the settings
  obtain ⟨hcolor, hdate⟩ := hd.perform_kept world w
  obtain ⟨hlog, hproblem⟩ := he.perform_congr (w := set.forgetProjection)
    (v := w.forgetProjection) (Directive.perform_log hd.changesLog world w) hcolor hdate world
  -- and the settings are set from the same as before the log was made
  have hedited : edited = ⟨edited.log, w.forgetProjection.settings⟩ :=
    Workspace.eq_of_parts rfl (Directive.perform_settings he.changesLog world w.forgetProjection)
  obtain ⟨hsettings, hproblem'⟩ := hd.perform_forgotten world w edited.log
  rw [← hedited] at hsettings hproblem'
  refine ⟨Workspace.eq_of_parts ?_ ?_, hproblem, hproblem'⟩
  · calc (e.perform world set.forgetProjection).workspace.log
        = edited.log := hlog
      _ = (d.perform world edited).workspace.log :=
          (Directive.perform_log hd.changesLog world edited).symm
  · calc (e.perform world set.forgetProjection).workspace.settings
        = set.forgetProjection.settings :=
          Directive.perform_settings he.changesLog world set.forgetProjection
      _ = (d.perform world edited).workspace.settings := hsettings.symm

/-- Two directives in either order lead to the same workspace. -/
theorem leads_pair_exchange (hd : d.SetsLoading) (he : e.EditsLog) :
    Leads world w [d, e] v ↔ Leads world w [e, d] v := by
  obtain ⟨hworkspace, hproblem, hproblem'⟩ := step_exchange hd he world w
  rw [leads_cons, leads_cons, leads_cons, leads_cons, leads_nil, leads_nil, hworkspace, hproblem,
    hproblem']
  exact and_left_comm

/-- **And so do runs with the two among others.** -/
theorem leads_exchange (h : x.Exchangeable y) :
    Leads world w (before ++ x :: y :: after) v ↔
      Leads world w (before ++ y :: x :: after) v := by
  have hpair : ∀ u t, Leads world u [x, y] t ↔ Leads world u [y, x] t := fun u t => by
    rcases h with ⟨hx, hy⟩ | ⟨hy, hx⟩
    · exact leads_pair_exchange hx hy
    · exact (leads_pair_exchange hy hx).symm
  have hsplit : ∀ a b : Directive, Leads world w (before ++ a :: b :: after) v ↔
      ∃ u, Leads world w before u ∧ ∃ t, Leads world u [a, b] t ∧ Leads world t after v :=
    fun a b => by
      rw [leads_append]
      refine exists_congr fun u => and_congr_right fun _ => ?_
      have happend : Leads world u ([a, b] ++ after) v ↔ _ := leads_append
      exact happend
  rw [hsplit, hsplit]
  exact exists_congr fun u => and_congr_right fun _ =>
    exists_congr fun t => and_congr_left fun _ => hpair u t

/-- The exchanged script is accepted like the other. -/
theorem Accepted.exchange {script exchanged : String}
    (h : Accepted script (before ++ x :: y :: after))
    (hparse : parse exchanged = .ok (before ++ y :: x :: after)) :
    Accepted exchanged (before ++ y :: x :: after) := by
  have hperm : (before ++ y :: x :: after).Perm (before ++ x :: y :: after) :=
    (List.Perm.swap x y after).append_left before
  refine ⟨hparse, by simp, firstInvalid?_eq_none_iff.mpr fun d hd => ?_⟩
  exact firstInvalid?_eq_none_iff.mp h.valid d (hperm.mem_iff.mp hd)

/-- **Settings and the log are apart.** Whether or not a directive meets a
problem, one that works on the log leaves the settings alone, but for the
projection, which is forgotten; any other leaves the log alone. So in a
script that succeeds a directive about lines that are loaded and one next
to it that works on the log, but does not load files, may be exchanged:
the script succeeds all the same, with the same log and settings. -/
theorem settings_apart_from_log (world : World) :
    (∀ (w : Workspace) (d : Directive),
      (d.changesLog = true →
        (d.perform world w).workspace.settings = w.settings ∧
          (step world w d).workspace.settings = { w.settings with projection := none }) ∧
        (d.changesLog = false →
          (d.perform world w).workspace.log = w.log ∧ (step world w d).workspace.log = w.log)) ∧
      ∀ (w : Workspace) (script exchanged : String) (before after : List Directive)
        (x y : Directive), x.Exchangeable y →
        Accepted script (before ++ x :: y :: after) →
        parse exchanged = .ok (before ++ y :: x :: after) →
        (run world script w).success = true →
          (run world exchanged w).success = true ∧
            (run world exchanged w).workspace = (run world script w).workspace := by
  refine ⟨fun w d => ⟨fun hd => ?_, fun hd => ?_⟩, ?_⟩
  · rw [step_of_changesLog hd]
    exact ⟨Directive.perform_settings hd world w, Directive.perform_settings hd world _⟩
  · rw [step_of_not_changesLog hd]
    exact ⟨Directive.perform_log hd world w, Directive.perform_log hd world w⟩
  · intro w script exchanged before after x y hxy haccepted hparse hsuccess
    have hrun : run world script w = execute world w _ := run_of_accepted haccepted
    have hrun' : run world exchanged w = execute world w _ :=
      run_of_accepted (haccepted.exchange hparse)
    rw [hrun, execute_success_iff] at hsuccess
    obtain ⟨hproblem, hworkspace⟩ := (leads_exchange hxy).mp ⟨hsuccess, rfl⟩
    rw [hrun, hrun', execute_success_iff, execute_workspace, execute_workspace]
    exact ⟨hproblem, hworkspace⟩

/-- A limit and a cut are exchanged between a query, whose projection the
cut forgets, and the loading of a file, which the limit is for. -/
theorem settings_apart_from_log_of_limit :
    let world : World :=
      ⟨(Files.empty []).write ["a"] (Text.Utf8.encode "x\ny"), ⟨0, 0⟩, 0, none⟩
    let w : Workspace := ⟨Log.ofTexts ["abc"], Settings.initial⟩
    Directive.Exchangeable (.limit 1) (.truncate 2) ∧
      (run world "sql a\nlimit 1\ntruncate 2\n< a" w).success = true ∧
      (run world "sql a\ntruncate 2\n\n limit 1\n< a" w).workspace =
        (run world "sql a\nlimit 1\ntruncate 2\n< a" w).workspace := by
  intro world w
  have hxy : Directive.Exchangeable (.limit 1) (.truncate 2) :=
    Or.inl ⟨.limit 1, rfl, fun pattern => by simp⟩
  have haccepted : Accepted "sql a\nlimit 1\ntruncate 2\n< a"
      ([.query "a"] ++ .limit 1 :: .truncate 2 :: [.load "a"]) := ⟨by rfl, by simp, rfl⟩
  have hsuccess : (run world "sql a\nlimit 1\ntruncate 2\n< a" w).success = true := by
    decide +kernel
  obtain ⟨-, hexchange⟩ := settings_apart_from_log world
  exact ⟨hxy, hsuccess, (hexchange w _ _ _ _ _ _ hxy haccepted (by rfl) hsuccess).2⟩

end Script

end LogSift
