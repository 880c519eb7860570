import LogSift.Proofs.Script.Reading
import LogSift.Proofs.Script.Refusal
/-!
# Scripts in pieces

A script may be run piece by piece, each piece a script of its own that
starts where the one before it has ended. A piece of comments alone is
refused, which leaves the workspace alone as performing nothing does
(`Leads.run_workspace`), so nothing depends on where the script is cut
(`leads_append`). Of its world a run takes the time, chance and the query
engine, and of the files what loading from its patterns gives: worlds that
agree on these are alike to it (`Leads.congr`).
-/


namespace LogSift

/-! ## What a run takes from its world -/

/-- **The worlds agree** to a script that loads from these patterns. -/
structure World.Agrees (patterns : List String) (a b : World) : Prop where
  now : a.now = b.now
  seed : a.seed = b.seed
  queryEngine : a.queryEngine = b.queryEngine
  load : ∀ pattern ∈ patterns, ∀ s log,
    Load.load a.files s pattern log = Load.load b.files s pattern log

variable {patterns : List String} {a b world : World} {u v w : Workspace} {d : Directive}
variable {ds before after : List Directive} {script : String}

/-- Only loading looks at the files. -/
theorem Directive.perform_congr (h : a.Agrees patterns b)
    (hd : ∀ pattern, d = .load pattern → pattern ∈ patterns) : d.perform a w = d.perform b w := by
  obtain ⟨files, now, seed, engine⟩ := a
  obtain ⟨files', now', seed', engine'⟩ := b
  obtain ⟨rfl, rfl, rfl, hload⟩ := h
  cases d with
  | load pattern => simp only [perform, hload pattern (hd pattern rfl)]
  | demo | require | exclude | requireToday | clearFilters | limit | replace | chop | clear
  | truncate | addField | keyValues | sort | sed | color | filter | hideUnmatched | today
  | dateFormat | divideByPattern | divideByField | filterSections | duplicates | query | sleep =>
    rfl

namespace Script

theorem performAll_congr (h : a.Agrees patterns b)
    (hds : ∀ pattern, .load pattern ∈ ds → pattern ∈ patterns) (w : Workspace) :
    performAll a w ds = performAll b w ds := by
  induction ds generalizing w with
  | nil => rfl
  | cons d ds ih =>
    have hd : step a w d = step b w d :=
      Directive.perform_congr h fun pattern hpattern => hds pattern (hpattern ▸ List.mem_cons_self)
    have hrest := ih fun pattern hpattern => hds pattern (List.mem_cons_of_mem d hpattern)
    simp only [performAll, hd, hrest]

/-! ## Runs that meet no problem -/

/-- **The directives lead** from one workspace to another: they are all
performed and meet no problem. -/
structure Leads (world : World) (w : Workspace) (ds : List Directive) (v : Workspace) : Prop where
  problem : (performAll world w ds).1.problem = none
  workspace : (performAll world w ds).1.workspace = v

theorem leads_nil : Leads world w [] v ↔ w = v := ⟨fun h => h.workspace, fun h => ⟨rfl, h⟩⟩

theorem leads_cons :
    Leads world w (d :: ds) v ↔
      (step world w d).problem = none ∧ Leads world (step world w d).workspace ds v := by
  rcases hp : (step world w d).problem with _ | problem
  · constructor
    · rintro ⟨hproblem, hworkspace⟩
      rw [performAll_cons_of_done hp] at hproblem hworkspace
      exact ⟨rfl, hproblem, hworkspace⟩
    · rintro ⟨-, hproblem, hworkspace⟩
      refine ⟨?_, ?_⟩ <;> rw [performAll_cons_of_done hp]
      · exact hproblem
      · exact hworkspace
  · refine iff_of_false (fun h => ?_) (fun h => nomatch h.1)
    have hproblem := h.problem
    rw [performAll_cons_of_problem hp] at hproblem
    cases hproblem

/-- **Wherever the directives are divided**, some lead to a workspace from
which the others lead on. -/
theorem leads_append :
    Leads world w (before ++ after) v ↔ ∃ u, Leads world w before u ∧ Leads world u after v := by
  rcases hbefore : (performAll world w before).1.problem with _ | problem
  · have happend : performAll world w (before ++ after) = _ := performAll_append hbefore
    constructor
    · rintro ⟨hproblem, hworkspace⟩
      rw [happend] at hproblem hworkspace
      exact ⟨_, ⟨hbefore, rfl⟩, hproblem, hworkspace⟩
    · rintro ⟨u, ⟨-, rfl⟩, hproblem, hworkspace⟩
      refine ⟨?_, ?_⟩
      · rw [happend]
        exact hproblem
      · rw [happend]
        exact hworkspace
  · -- the first directives meet a problem, so that neither side holds
    have happend : performAll world w (before ++ after) = _ := performAll_append_of_problem hbefore
    refine iff_of_false (fun h => ?_) (fun ⟨u, h, _⟩ => ?_)
    · have hproblem := h.problem
      rw [happend, hbefore] at hproblem
      cases hproblem
    · have hproblem := h.problem
      rw [hbefore] at hproblem
      cases hproblem

theorem Leads.congr (h : Leads a w ds v) (hworlds : a.Agrees patterns b)
    (hds : ∀ pattern, .load pattern ∈ ds → pattern ∈ patterns) : Leads b w ds v := by
  obtain ⟨hproblem, hworkspace⟩ := h
  rw [performAll_congr hworlds hds] at hproblem hworkspace
  exact ⟨hproblem, hworkspace⟩

/-- A script that succeeds is accepted, and its directives lead to where it
ends. -/
theorem exists_leads_of_success (h : (run world script w).success = true) :
    ∃ ds, Accepted script ds ∧ Leads world w ds (run world script w).workspace := by
  rcases run_cases world script w with ⟨ds, haccepted, hrun⟩ | ⟨reports, hrun⟩
  · rw [hrun] at h ⊢
    exact ⟨ds, haccepted, (execute_success_iff world w ds).mp h,
      (execute_workspace world w ds).symm⟩
  · rw [hrun] at h
    cases h

/-- And where the directives of an accepted script lead to, it ends. -/
theorem Leads.run_accepted (h : Leads world w ds v) (haccepted : Accepted script ds) :
    (run world script w).workspace = v ∧ (run world script w).success = true := by
  rw [run_of_accepted haccepted, execute_workspace, execute_success_iff]
  exact ⟨h.workspace, h.problem⟩

/-! ## Pieces -/

/-- **A piece of a script**: some of its lines, which are read as these
directives. They are valid, and load from the patterns. -/
structure Piece (patterns : List String) (ls : List (List Char)) (ds : List Directive) : Prop where
  notMem : ∀ line ∈ ls, '\n' ∉ line
  reads : Reads (Text.contentOf ls) ds
  valid : ∀ d ∈ ds, d.validate = .ok ()
  loads : ∀ pattern, .load pattern ∈ ds → pattern ∈ patterns

namespace Piece

variable {ls more : List (List Char)} {es : List Directive}

theorem nil (patterns : List String) : Piece patterns [] [] :=
  ⟨List.forall_mem_nil _, .nil, List.forall_mem_nil _, fun _ h => nomatch h⟩

theorem append (h : Piece patterns ls ds) (hmore : Piece patterns more es) :
    Piece patterns (ls ++ more) (ds ++ es) where
  notMem line hline := (List.mem_append.mp hline).elim (h.notMem line) (hmore.notMem line)
  reads := by
    rw [Text.contentOf_append]
    exact h.reads.append hmore.reads
  valid d hd := (List.mem_append.mp hd).elim (h.valid d) (hmore.valid d)
  loads pattern hd := (List.mem_append.mp hd).elim (h.loads pattern) (hmore.loads pattern)

/-- A piece may be cut in two anywhere between lines. -/
theorem exists_append (h : Piece patterns (ls ++ more) ds) :
    ∃ first second, ds = first ++ second ∧ Piece patterns ls first ∧
      Piece patterns more second := by
  have hreads := h.reads
  rw [Text.contentOf_append] at hreads
  obtain ⟨first, second, rfl, hfirst, hsecond⟩ := hreads.exists_append
  refine ⟨first, second, rfl, ⟨?_, hfirst, ?_, ?_⟩, ?_, hsecond, ?_, ?_⟩
  · exact fun line hline => h.notMem line (List.mem_append_left more hline)
  · exact fun d hd => h.valid d (List.mem_append_left second hd)
  · exact fun pattern hd => h.loads pattern (List.mem_append_left second hd)
  · exact fun line hline => h.notMem line (List.mem_append_right ls hline)
  · exact fun d hd => h.valid d (List.mem_append_right first hd)
  · exact fun pattern hd => h.loads pattern (List.mem_append_right first hd)

/-- Each of the lines that are not blank can be read. -/
theorem exists_parseLine {line : List Char} (h : Piece patterns ls ds) (hline : line ∈ ls)
    (hne : Text.trim line ≠ []) : ∃ d?, parseLine (String.ofList line) = .ok d? := by
  have hcontent : Text.trim line ∈ Text.contentOf ls := by
    simpa [Text.contentOf, hne] using List.mem_map_of_mem hline
  obtain ⟨d?, hread⟩ := h.reads.exists_of_mem hcontent
  exact ⟨d?, (parseLine_trim line).symm.trans hread⟩

end Piece

/-- The patterns of a script are those that its directives load from. -/
theorem mem_filePatterns_of_parse {pattern : String} (hparse : parse script = .ok ds)
    (hd : .load pattern ∈ ds) : pattern ∈ filePatterns script := by
  obtain ⟨line, hline, hread⟩ := (parse_eq_ok_iff.mp hparse).exists_line_of_mem hd
  obtain ⟨raw, hraw, rfl⟩ := List.mem_map.mp (List.mem_filter.mp hline).1
  rw [parseLine_trim] at hread
  exact List.mem_filterMap.mpr ⟨raw, hraw, by simp only [hread]⟩

/-- The lines of an accepted script are a piece of it. -/
theorem Accepted.piece (h : Accepted script ds) :
    Piece (filePatterns script) (Text.lines script.toList) ds where
  notMem := Text.notMem_of_mem_lines
  reads := parse_eq_ok_iff.mp h.parsed
  valid := firstInvalid?_eq_none_iff.mp h.valid
  loads _ hd := mem_filePatterns_of_parse h.parsed hd

/-- **Running a piece** ends where its directives lead to, even if it has
none and is refused. -/
theorem Leads.run_workspace {ls : List (List Char)} (h : Leads world w ds v)
    (hpiece : Piece patterns ls ds) (hscript : Text.content script.toList = Text.contentOf ls) :
    (run world script w).workspace = v := by
  have hparse : parse script = .ok ds := parse_eq_ok_iff.mpr (hscript ▸ hpiece.reads)
  cases ds with
  | nil =>
    -- comments alone: the run is refused, and performing nothing leads nowhere else
    obtain ⟨reports, -, hrun⟩ := run_of_refused (.empty hparse) world w
    rw [hrun]
    exact h.workspace
  | cons d ds =>
    have haccepted : Accepted script (d :: ds) :=
      ⟨hparse, by simp, firstInvalid?_eq_none_iff.mpr hpiece.valid⟩
    rw [run_of_accepted haccepted, execute_workspace]
    exact h.workspace

end Script

end LogSift
