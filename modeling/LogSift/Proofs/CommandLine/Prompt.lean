import LogSift.Proofs.CommandLine.Console
import LogSift.Proofs.CommandLine.Startup
import LogSift.Proofs.Session.Refusal
/-!
# The prompt and the command line

A script may be given to the command line or typed at the prompt, line by
line. There it is cut into pieces, one before each blank line, and each
piece is run as a script of its own, with the ends of its lines trimmed. If
the command line succeeds with the script, the prompt ends with the same
workspace (`prompt_agrees`). No line is lost on the way: a session command
cannot be read as a directive, so a script with one is refused.
-/


namespace LogSift

open CommandLine

/-! ## Results that can be decided -/

instance decidableEqOk {ε α : Type} [DecidableEq α] (e : Except ε α) (a : α) :
    Decidable (e = .ok a) :=
  match e with
  | .ok b => decidable_of_iff (b = a) (by simp)
  | .error _ => isFalse nofun

instance (s : Stage) (code : Nat) : Decidable (s = .finished code) :=
  match s with
  | .finished n => decidable_of_iff (n = code) (by simp)
  | .prompting _ => isFalse nofun

/-! ## What a line asks for -/

/-- The colon is the only operator that starts with a colon. -/
theorem Registry.op_of_colon :
    ∀ e ∈ entries, e.op.toList.head? = some ':' → e.op = ":" := by
  decide

variable {line : List Char}

/-- **A session command cannot be read.** -/
theorem Script.parseLine_of_command {c : Char} {rest : List Char}
    (h : Text.trim line = ':' :: c :: rest) (hc : isBlank c = false) :
    ∃ op, parseLine (String.ofList line) = .error (.unknownDirective op) := by
  have hcolon : isBlank ':' = false := by decide
  let word := ':' :: c :: rest.takeWhile (!isBlank ·)
  have hscan : Scanner.ofLine (String.ofList line) =
      some (String.ofList word, ⟨Text.trimStart (rest.dropWhile (!isBlank ·))⟩) := by
    simp [Scanner.ofLine, h, Scanner.word?, Scanner.isDone, Text.splitWord, hcolon, hc, word]
  -- the word starts with a colon and goes on, so that it is no operator
  have hfind : Registry.find? (String.ofList word) = none := by
    rcases hfound : Registry.find? (String.ofList word) with _ | e
    · rfl
    · have hop : e.op = String.ofList word := by simpa using List.find?_some hfound
      have honly := Registry.op_of_colon e (List.mem_of_find?_eq_some hfound) (by simp [hop, word])
      rw [hop] at honly
      simpa [word] using congrArg String.toList honly
  refine ⟨String.ofList word, ?_⟩
  simp only [parseLine, hscan, hfind]

namespace Prompt

theorem ofLine_of_blank (h : Text.trim line = []) :
    ofLine (String.ofList line) = .runBuffer := by
  simp [ofLine, h]

/-- **A line that a script can hold** is a directive at the prompt, unless it
is blank. -/
theorem ofLine_of_parseLine {d? : Option Directive}
    (hread : Script.parseLine (String.ofList line) = .ok d?) (hne : Text.trim line ≠ []) :
    ofLine (String.ofList line) = .directive (String.ofList (Text.trimEnd line)) := by
  rw [ofLine.eq_def]
  simp only [String.toList_ofList]
  split
  · rename_i hblank
    exact absurd hblank hne
  · rename_i c rest htrim
    rcases hc : isBlank c with _ | _
    · obtain ⟨op, hfault⟩ := Script.parseLine_of_command htrim hc
      rw [hread] at hfault
      cases hfault
    · rfl
  · rfl

end Prompt

/-! ## The session -/

/-- If a script succeeds, its directives lead to where the session is. -/
theorem Session.exists_leads_of_success {s : Session} {world : World} {script : String}
    (h : (s.run world script).1.success = true) :
    ∃ ds, Script.Accepted script ds ∧
      Script.Leads world s.workspace ds (s.run world script).2.workspace := by
  obtain ⟨records, -, houtcome⟩ := run_outcome world script s
  rw [houtcome] at h
  rw [run_workspace]
  exact Script.exists_leads_of_success h

/-! ## The buffer -/

/-- The buffer once lines have been typed. -/
def Dialogue.bufferOf (ls : List (List Char)) : List String :=
  (ls.map fun line => String.ofList (Text.trimEnd line)).reverse

theorem Dialogue.bufferOf_concat (ls : List (List Char)) (line : List Char) :
    bufferOf (ls ++ [line]) = String.ofList (Text.trimEnd line) :: bufferOf ls := by
  simp [bufferOf]

/-- **The script in the buffer** has the content of the lines typed. -/
theorem Dialogue.content_bufferOf {ls : List (List Char)} (h : ∀ line ∈ ls, '\n' ∉ line) :
    Text.content ("\n".intercalate (bufferOf ls).reverse).toList = Text.contentOf ls := by
  rw [bufferOf, List.reverse_reverse]
  induction ls with
  | nil => rfl
  | cons line ls ih =>
    obtain ⟨hline, hls⟩ := List.forall_mem_cons.mp h
    have hfirst : Text.content (Text.trimEnd line) = Text.contentOf [line] := by
      obtain ⟨blanks, -, happend⟩ := Text.exists_trimEnd_append line
      have hkept : '\n' ∉ Text.trimEnd line := fun hmem =>
        hline (happend ▸ List.mem_append_left blanks hmem)
      rw [Text.content_of_notMem hkept]
      exact Text.contentOf_cons_congr (Text.trim_trimEnd line) []
    cases ls with
    | nil => simpa using hfirst
    | cons next ls =>
      have hjoined : ("\n".intercalate ((line :: next :: ls).map fun line =>
          String.ofList (Text.trimEnd line))).toList =
          Text.trimEnd line ++ '\n' :: ("\n".intercalate ((next :: ls).map fun line =>
            String.ofList (Text.trimEnd line))).toList := by
        simp [String.intercalate_cons_cons]
      rw [hjoined, Text.content_append, hfirst, ih hls]
      exact (Text.contentOf_append [line] (next :: ls)).symm

namespace CommandLine

open Script Dialogue

variable {patterns : List String} {c₁ c₀ c : Console} {d : Dialogue}
variable {typed ls : List (List Char)} {ds es : List Directive} {v : Workspace}
variable {path script : String} {debug noColor : Bool}

theorem runScript_follows (h : c₀.Follows c) (color : Bool) (script : String) (s : Session) :
    c₀.Follows (runScript color script c s).1 :=
  h.reportAll color _

theorem runBuffer_follows (h : c₀.Follows c) (d : Dialogue) : c₀.Follows (runBuffer c d).1 := by
  rw [runBuffer]
  split
  · exact h
  · exact runScript_follows h _ _ _

theorem runBuffer_buffer (c : Console) (d : Dialogue) :
    (runBuffer c d).2.buffer = bufferOf [] := by
  rw [runBuffer]
  split
  · rename_i hempty
    exact List.isEmpty_iff.mp hempty
  · rfl

/-- **Running the buffer** leads where its directives do. -/
theorem runBuffer_workspace (hbuffer : d.buffer = bufferOf typed)
    (hpiece : Piece patterns typed es)
    (hleads : Leads (world c) d.session.workspace es v) :
    (runBuffer c d).2.session.workspace = v := by
  rw [runBuffer]
  split
  · -- nothing has been typed
    rename_i hempty
    have htyped : typed = [] := by simpa [hbuffer, bufferOf] using hempty
    subst htyped
    obtain rfl := reads_nil.mp hpiece.reads
    exact leads_nil.mp hleads
  · rw [hbuffer]
    refine (Session.run_workspace (world c) _ d.session).trans ?_
    exact hleads.run_workspace hpiece (content_bufferOf hpiece.notMem)

/-! ## The lines of a script -/

/-- **Lines taken lead where their directives do**, after those in the buffer.
The induction is over the lines to come; the lines in the buffer are a piece
of the script, and the console has only passed reports on. -/
theorem takeLines_leads (hfinds : c₁.Finds script c₀)
    (henvironment : c₀.environment = c₁.environment) (hfollows : c₀.Follows c)
    (hbuffer : d.buffer = bufferOf typed) (htyped : Piece (filePatterns script) typed es)
    (hls : Piece (filePatterns script) ls ds)
    (hleads : Leads (world c₁) d.session.workspace (es ++ ds) v) :
    ∃ c' d', takeLines (c, .prompting d) (ls.map String.ofList) = (c', .prompting d') ∧
      (endInput c' d').2.session.workspace = v := by
  induction ls generalizing c d typed es ds with
  | nil =>
    obtain rfl := reads_nil.mp hls.reads
    rw [List.append_nil] at hleads
    have hworlds := world_agrees hfinds henvironment hfollows
    exact ⟨c, d, rfl, runBuffer_workspace hbuffer htyped (hleads.congr hworlds htyped.loads)⟩
  | cons line ls ih =>
    have hcut : Piece (filePatterns script) ([line] ++ ls) ds := hls
    obtain ⟨first, second, rfl, hline, hrest⟩ := hcut.exists_append
    by_cases hblank : Text.trim line = []
    · -- a blank line runs the buffer, and nothing is read of it
      have hreads := hline.reads
      rw [Text.contentOf_cons_of_blank hblank, Text.contentOf_nil] at hreads
      obtain rfl := reads_nil.mp hreads
      obtain ⟨u, htypedLeads, hrestLeads⟩ := leads_append.mp hleads
      have hworlds := world_agrees hfinds henvironment hfollows
      have hu := runBuffer_workspace hbuffer htyped (htypedLeads.congr hworlds htyped.loads)
      have htake : take c d (String.ofList line) =
          await (runBuffer c d).1 (runBuffer c d).2 := by
        simp only [take, Prompt.ofLine_of_blank hblank]
      rw [List.map_cons, takeLines, htake]
      refine ih ((runBuffer_follows hfollows d).print _) (runBuffer_buffer c d) (Piece.nil _)
        hrest ?_
      rw [hu]
      exact hrestLeads
    · -- any other line is put into the buffer
      obtain ⟨d?, hread⟩ := hls.exists_parseLine List.mem_cons_self hblank
      have htake : take c d (String.ofList line) =
          await c { d with buffer := String.ofList (Text.trimEnd line) :: d.buffer } := by
        simp only [take, Prompt.ofLine_of_parseLine hread hblank]
      rw [List.map_cons, takeLines, htake]
      refine ih (hfollows.print _) ?_ (htyped.append hline) hrest ?_
      · rw [bufferOf_concat, hbuffer]
      · rw [List.append_assoc]
        exact hleads

/-! ## The same workspace -/

/-- **The prompt and the command line agree.** If running a script file ends
well, the lines of the script may as well be typed at the prompt: each that
is not blank is a directive there, the dialogue goes on to the end of the
input, and it ends with the workspace that the run ends with. The options
may be others. The time and the seed of demonstrations that name none are
the same for both, and what the script loads has to be there for the prompt
as it is for the run. -/
theorem prompt_agrees {all json fields debug' : Bool}
    (hread : Startup.readScript (Startup.prepare debug c).2.files path = .ok script)
    (hfinds : (Startup.prepare debug c).2.Finds script (Startup.prepare debug' c).2)
    (hrun : (run [path] [] all json fields debug noColor c).2 = .finished 0) (noColor' : Bool) :
    (∀ line ∈ Text.lines script.toList, Text.trim line ≠ [] →
        Prompt.ofLine (String.ofList line) = .directive (String.ofList (Text.trimEnd line))) ∧
      ∃ config o ran c₁ c₂ d,
        runScripts [path] [] debug (c.environment.color && !noColor) c =
          (.ok (config, o, ran), c₁) ∧
        takeLines (prompt none debug' noColor' c) ((Text.lines script.toList).map String.ofList) =
          (c₂, .prompting d) ∧
        (endInput c₂ d).2.session.workspace = ran.workspace := by
  obtain ⟨config, o, ran, c₁, hran, hsuccess⟩ := exists_of_run_finished hrun
  obtain ⟨session, hprepared, hsession, hscript⟩ := exists_of_runScripts_file hread hran
  have hsucceeds : (session.run (world (Startup.prepare debug c).2) script).1.success = true := by
    rw [hscript]
    exact hsuccess
  obtain ⟨ds, haccepted, hleads⟩ := Session.exists_leads_of_success hsucceeds
  rw [hscript] at hleads
  have hpiece := haccepted.piece
  refine ⟨fun line hline hne => ?_, ?_⟩
  · obtain ⟨d?, hparse⟩ := hpiece.exists_parseLine hline hne
    exact Prompt.ofLine_of_parseLine hparse hne
  · obtain ⟨text, options, hprompt⟩ :=
      prompt_eq ((Startup.prepare_fst debug' debug c).trans hprepared) hsession noColor'
    have henvironment : (Startup.prepare debug' c).2.environment =
        (Startup.prepare debug c).2.environment :=
      (Startup.prepare_environment debug' c).trans (Startup.prepare_environment debug c).symm
    let start : Dialogue := ⟨session, [], options⟩
    have hfollows := ((Console.Follows.refl (Startup.prepare debug' c).2).print text).print
      (promptText start)
    obtain ⟨c₂, d, htaken, hend⟩ := takeLines_leads (d := start) hfinds henvironment hfollows rfl
      (Piece.nil _) hpiece hleads
    exact ⟨config, o, ran, c₁, c₂, d, hran, by rw [hprompt]; exact htaken, hend⟩

/-- A script with a comment that is a piece of its own, an indented color and
a line that a carriage return ends sets the limit to seven at the prompt. -/
theorem prompt_agrees_of_lone_comment :
    let script := "# red\n\n\t: red \n limit 5\r\n\r\nlimit 7"
    let c : Console := .start ⟨[], ⟨0, 0⟩, 0, false⟩
      ⟨[], [⟨["a"], 0, .file (.ok (Text.Utf8.encode script))⟩]⟩
    (run ["a"] [] false false false false true c).2 = .finished 0 ∧
      ∃ c₂ d, takeLines (prompt none false true c) ((Text.lines script.toList).map String.ofList) =
          (c₂, .prompting d) ∧
        (endInput c₂ d).2.session.workspace.settings.limit = 7 := by
  intro script c
  have hread : Startup.readScript (Startup.prepare false c).2.files "a" = .ok script := by
    decide +kernel
  have hrun : (run ["a"] [] false false false false true c).2 = .finished 0 := by
    decide +kernel
  have hlimit : (runScripts ["a"] [] false false c).1.toOption.map
      (fun ran => ran.2.2.workspace.settings.limit) = some 7 := by
    decide +kernel
  obtain ⟨-, config, o, ran, c₁, c₂, d, hran, htaken, hend⟩ :=
    prompt_agrees hread (Console.finds_of_records_none rfl script) hrun true
  rw [show runScripts ["a"] [] false false c = _ from hran] at hlimit
  refine ⟨hrun, c₂, d, htaken, ?_⟩
  rw [hend]
  exact Option.some.inj hlimit

end CommandLine

end LogSift
