import LogSift.Proofs.Script.Steps
/-!
# Refused scripts, and how runs end

A script is refused (`Refused`) if it cannot be read, has no directive, or
one of its directives is not valid. These are the scripts whose run has no
label (`run_label_eq_none_iff`): of any other at least the first directive
is started. Whether refused, failed or done, a run reports its end once,
with its label and the log it leaves (`run_endings`), since nothing that a
directive reports is an end.
-/


namespace LogSift

namespace Report

/-- What a report of the end of a run says. -/
def ending? : Report → Option (Option String × Log)
  | done label log => some (label, log)
  | _ => none

/-- The ends that are reported. -/
def endings (rs : List Report) : List (Option String × Log) := rs.filterMap ending?

@[simp] theorem endings_nil : endings [] = [] := rfl

@[simp] theorem endings_append (rs more : List Report) :
    endings (rs ++ more) = endings rs ++ endings more := List.filterMap_append

@[simp] theorem endings_cons_progress (text : String) (rs : List Report) :
    endings (.progress text :: rs) = endings rs := rfl

@[simp] theorem endings_cons_record (r : Record) (rs : List Report) :
    endings (.record r :: rs) = endings rs := rfl

@[simp] theorem endings_cons_info (message : String) (details : List (String × String))
    (rs : List Report) : endings (.info message details :: rs) = endings rs := rfl

@[simp] theorem endings_cons_warning (message : String) (details : List (String × String))
    (rs : List Report) : endings (.warning message details :: rs) = endings rs := rfl

@[simp] theorem endings_map_progress {α : Type} (f : α → String) (xs : List α) :
    endings (xs.map fun x => .progress (f x)) = [] := by
  simp [endings, ending?]

end Report

open Report

/-! ## What directives report -/

theorem Load.reports_endings (path : String) (s : Settings) (lines : List (List Char)) :
    endings (Load.reports path s lines) = [] := by
  rw [Load.reports]
  split <;> simp

theorem Load.loadFiles_endings (f : Files) (s : Settings) (places : List Glob.Place) (log : Log) :
    endings (loadFiles f s places log).1 = [] := by
  induction places generalizing log with
  | nil => rfl
  | cons p places ih =>
    rw [loadFiles]
    split
    · rfl
    · rename_i bytes _
      simp [reports_endings, ih]

theorem Load.load_endings (f : Files) (s : Settings) (pattern : String) (log : Log) :
    endings (load f s pattern log).1 = [] := by
  rw [load]
  split
  · rfl
  · exact loadFiles_endings f s _ log

theorem World.answer_endings (world : World) (projection : Projection) (sql : String) :
    endings (world.answer projection sql) = [] := by
  rw [answer]
  split
  · simp
  · split <;> simp

@[simp] theorem Performance.done_endings (w : Workspace) (lines : List String) :
    endings (Performance.done w lines).reports = [] := endings_map_progress id lines

/-- **No directive reports the end of a run.** -/
theorem Directive.perform_endings (world : World) (w : Workspace) (d : Directive) :
    endings (d.perform world w).reports = [] := by
  cases d with
  | load pattern => exact Load.load_endings world.files w.settings pattern w.log
  | query sql => simp [perform, Workspace.query, World.answer_endings]
  | sleep seconds => rfl
  | requireToday | today =>
    rw [perform]
    split
    · exact Performance.done_endings _ _
    · rfl
  | demo | require | exclude | clearFilters | limit | replace | chop | clear | truncate
  | addField | keyValues | sort | sed | color | filter | hideUnmatched | dateFormat
  | divideByPattern | divideByField | filterSections | duplicates =>
    exact Performance.done_endings _ _

namespace Script

variable {world : World} {w : Workspace} {ds : List Directive} {script : String}

theorem performAll_endings (world : World) (w : Workspace) (ds : List Directive) :
    endings (performAll world w ds).1.reports = [] := by
  induction ds generalizing w with
  | nil => rfl
  | cons d ds ih =>
    have hstep : endings (step world w d).reports = [] := d.perform_endings world _
    rcases hp : (step world w d).problem with _ | problem
    · rw [performAll_cons_of_done hp]
      simpa [hstep, completed] using ih _
    · rw [performAll_cons_of_problem hp]
      simp [hstep, failure]

/-! ## Refusal -/

/-- **The script is refused**, and nothing of it is performed. -/
inductive Refused (script : String) : Prop
  /-- It cannot be read. -/
  | unread {fault : ScriptFault} : parse script = .error fault → Refused script
  /-- It has no directive. -/
  | empty : parse script = .ok [] → Refused script
  /-- A directive is not valid. -/
  | invalid {ds : List Directive} {d : Directive} {problem : Problem} :
      parse script = .ok ds → d ∈ ds → d.validate = .error problem → Refused script

/-- **A script is accepted or refused**, -/
theorem accepted_or_refused (script : String) : (∃ ds, Accepted script ds) ∨ Refused script := by
  rcases hparse : parse script with fault | ds
  · exact Or.inr (.unread hparse)
  · rcases hvalid : firstInvalid? ds with _ | found
    · cases ds with
      | nil => exact Or.inr (.empty hparse)
      | cons d ds => exact Or.inl ⟨d :: ds, hparse, by simp, hvalid⟩
    · obtain ⟨hd, hinvalid⟩ := of_firstInvalid?_eq_some hvalid
      exact Or.inr (.invalid hparse hd hinvalid)

/-- and not both. -/
theorem Accepted.not_refused (h : Accepted script ds) : ¬ Refused script := by
  intro hrefused
  cases hrefused with
  | unread hparse =>
    rw [h.parsed] at hparse
    cases hparse
  | empty hparse =>
    rw [h.parsed] at hparse
    exact h.nonempty (Except.ok.inj hparse)
  | invalid hparse hd hinvalid =>
    rw [h.parsed] at hparse
    obtain rfl := Except.ok.inj hparse
    rw [firstInvalid?_eq_none_iff.mp h.valid _ hd] at hinvalid
    cases hinvalid

/-- **A refused script** leaves the workspace alone, and no end is reported
before the end. -/
theorem run_of_refused (h : Refused script) (world : World) (w : Workspace) :
    ∃ reports, endings reports = [] ∧ run world script w = refuse w reports := by
  cases h with
  | unread hparse => exact ⟨_, rfl, by simp only [run, hparse]; rfl⟩
  | empty hparse => exact ⟨_, rfl, by simp only [run, hparse]; rfl⟩
  | @invalid ds d problem hparse hd hinvalid =>
    -- the first directive that is not valid is found, be it this one or another
    rcases hfound : firstInvalid? ds with _ | found
    · rw [firstInvalid?_eq_none_iff.mp hfound d hd] at hinvalid
      cases hinvalid
    · cases ds with
      | nil => cases hd
      | cons e ds => exact ⟨_, rfl, by simp only [run, hparse, hfound]; rfl⟩

/-- A script with a directive that is not valid is refused. -/
theorem run_of_not_valid (hparse : parse script = .ok ds) (h : ¬ ∀ d ∈ ds, d.validate = .ok ())
    (world : World) (w : Workspace) : ∃ reports, run world script w = refuse w reports := by
  rcases run_cases world script w with ⟨es, haccepted, -⟩ | hrefused
  · have hsame : es = ds := Except.ok.inj (haccepted.parsed.symm.trans hparse)
    exact absurd (firstInvalid?_eq_none_iff.mp haccepted.valid) (hsame ▸ h)
  · exact hrefused

/-! ## Labels -/

theorem label_eq_none_iff {ops : List String} : label ops = none ↔ ops = [] := by
  rw [label.eq_def]
  split <;> simp

/-- The first directive is started whatever comes of it. -/
theorem performAll_ops_ne_nil (hne : ds ≠ []) (world : World) (w : Workspace) :
    (performAll world w ds).2 ≠ [] := by
  cases ds with
  | nil => exact absurd rfl hne
  | cons d ds =>
    rcases hp : (step world w d).problem with _ | problem
    · simp [performAll_cons_of_done hp]
    · simp [performAll_cons_of_problem hp]

theorem execute_label (world : World) (w : Workspace) (ds : List Directive) :
    (execute world w ds).label = label (performAll world w ds).2 := by
  simp only [execute, finish]
  split <;> rfl

/-- **A run has no label iff the script is refused.** -/
theorem run_label_eq_none_iff (world : World) (script : String) (w : Workspace) :
    (run world script w).label = none ↔ Refused script := by
  rcases accepted_or_refused script with ⟨ds, haccepted⟩ | hrefused
  · have hlabel : (run world script w).label ≠ none := by
      rw [run_of_accepted haccepted, execute_label, ne_eq, label_eq_none_iff]
      exact performAll_ops_ne_nil haccepted.nonempty world w
    exact iff_of_false hlabel haccepted.not_refused
  · obtain ⟨reports, -, hrun⟩ := run_of_refused hrefused world w
    exact iff_of_true (by rw [hrun]; rfl) hrefused

/-! ## The end of a run -/

theorem finish_endings {reports : List Report} (h : endings reports = []) (success : Bool)
    (w : Workspace) (label : Option String) :
    endings (finish success w label reports).reports = [(label, w.log)] := by
  simp [finish, h]
  rfl

/-- **A run reports its end once**, with its label and the log it leaves. -/
theorem run_endings (world : World) (script : String) (w : Workspace) :
    endings (run world script w).reports =
      [((run world script w).label, (run world script w).workspace.log)] := by
  rcases accepted_or_refused script with ⟨ds, haccepted⟩ | hrefused
  · rw [run_of_accepted haccepted]
    simp only [execute]
    split
    · exact finish_endings (by simp [performAll_endings]) _ _ _
    · refine finish_endings ?_ _ _ _
      split <;> simp [performAll_endings]
  · obtain ⟨reports, hreports, hrun⟩ := run_of_refused hrefused world w
    rw [hrun]
    exact finish_endings hreports _ _ _

end Script

end LogSift
