import LogSift.Proofs.Line.Frame
import LogSift.Proofs.Pattern.Spans
import LogSift.Proofs.Script.Loading
import LogSift.Proofs.Script.Pieces
/-!
# Filters before and after loading

A pattern may be asked of lines before they are loaded, or of the log
afterwards. The first is a test of each line that is read; the second
collects the matches in a line, hides it or not, and leaves the rest to a
chop. Both let the same lines through, and number them the same
(`sieve_agrees`): whatever is loaded with the test is what is loaded
without it, sifted (`Workspace.Sifted`), file by file, also where a limit
cuts a file and where a file cannot be read.
-/


namespace LogSift

variable {world : World} {v w : Workspace} {s t : Settings} {keep : String → Bool}
variable {x y : Directive} {texts : List String} {p : Pattern} {kind : FilterKind}

/-! ## A filter on a line as it is loaded -/

namespace Line

theorem isFound_ofText (p : Pattern) (text : String) (n : Nat) :
    (ofText text n).isFound (some p) none = p.hasMatch text.toList := by
  rw [isFound, Pattern.hasMatch_eq_spans]
  rfl

/-- Of lines as they are loaded a filter that requires a pattern shows those
with a match, -/
theorem visible_required_ofText (p : Pattern) (color : Color) (text : String) (n : Nat) :
    ((ofText text n).filtered (some p) .required color none).visible = p.hasMatch text.toList := by
  obtain ⟨_, _, hmarked⟩ := (ofText text n).marked_frame (some p) color none
  rw [filtered, isFound_ofText, hmarked]
  exact Bool.true_and _

/-- and one that removes shows those without, since no section starts at
them. -/
theorem visible_remove_ofText (p : Pattern) (color : Color) (text : String) (n : Nat) :
    ((ofText text n).filtered (some p) .remove color none).visible = !p.hasMatch text.toList := by
  obtain ⟨_, _, hmarked⟩ := (ofText text n).marked_frame (some p) color none
  rw [filtered, isFound_ofText, hmarked]
  exact Bool.true_and _

end Line

/-! ## Texts with numbers -/

namespace Log

/-- **The texts of a log with the numbers** of their lines. -/
def listing (log : Log) : List (String × Nat) := log.map fun l => (l.text, l.number)

/-- The texts that are shown. -/
def shownTexts (log : Log) : List String := (log.filter (·.visible)).map (·.text)

theorem map_text_ofTexts (texts : List String) : (ofTexts texts).map (·.text) = texts :=
  List.ext_getElem (by simp [ofTexts]) fun i _ _ => by simp [ofTexts, Line.ofText]

theorem appendTexts_ofTexts (texts more : List String) :
    (ofTexts texts).appendTexts more = ofTexts (texts ++ more) := by
  have hnil : ∀ texts, ofTexts texts = appendTexts [] texts := fun texts => by
    simp [ofTexts, appendTexts]
  rw [hnil, hnil, appendTexts_append]

/-- **A chop lists what is shown** as if it had been loaded. -/
theorem listing_chop (log : Log) : log.chop.2.listing = (ofTexts log.shownTexts).listing := by
  refine List.ext_getElem (by simp [listing, chop, renumber, ofTexts, shownTexts]) fun i _ _ => ?_
  simp [listing, chop, renumber, ofTexts, shownTexts, Line.ofText]

/-- **A filter shows the texts that it keeps**, in a log of lines as they are
loaded. -/
theorem shownTexts_filterLines {color : Color}
    (hkeep : ∀ text n, ((Line.ofText text n).filtered (some p) kind color none).visible = keep text)
    (texts : List String) :
    ((ofTexts texts).filterLines (some p) kind color none).2.shownTexts = texts.filter keep := by
  have htext : ∀ l : Line, (l.filtered (some p) kind color none).text = l.text := fun l => by
    obtain ⟨_, _, _, _, hfiltered⟩ := l.filtered_frame (some p) kind color none
    rw [hfiltered]
  have hvisible : ∀ l ∈ ofTexts texts,
      (l.filtered (some p) kind color none).visible = keep l.text := by
    intro l hl
    obtain ⟨i, hi, rfl⟩ := List.mem_mapIdx.mp hl
    exact hkeep _ _
  calc ((ofTexts texts).filterLines (some p) kind color none).2.shownTexts
      = ((ofTexts texts).filter fun l => (l.filtered (some p) kind color none).visible).map
          fun l => (l.filtered (some p) kind color none).text := by
        simp only [shownTexts, filterLines, List.filter_map, List.map_map]
        rfl
    _ = ((ofTexts texts).filter fun l => keep l.text).map (·.text) := by
        rw [List.filter_congr hvisible, funext htext]
    _ = texts.filter keep := by
        rw [← map_text_ofTexts texts, List.filter_map, map_text_ofTexts]
        rfl

end Log

/-! ## Loading with a test and without one -/

namespace Settings

/-- **The settings let lines be loaded as they are**, without a test and without
replacements. -/
structure Plain (s : Settings) : Prop where
  required : s.required = []
  excluded : s.excluded = []
  replacements : s.replacements = Keyed.empty

theorem Plain.accepts (h : s.Plain) (text : String) : s.accepts text = true := by
  rw [Settings.accepts, h.required, h.excluded]
  rfl

/-- With a pattern that is required they test for a match, -/
theorem Plain.accepts_required (h : s.Plain) (p : Pattern) :
    ({ s with required := s.required ++ [p] } : Settings).accepts =
      fun text => p.hasMatch text.toList := by
  funext text
  simp [Settings.accepts, h.required, h.excluded]

/-- and with one that is excluded for none. -/
theorem Plain.accepts_excluded (h : s.Plain) (p : Pattern) :
    ({ s with excluded := s.excluded ++ [p] } : Settings).accepts =
      fun text => !p.hasMatch text.toList := by
  funext text
  simp [Settings.accepts, h.required, h.excluded]

theorem applyReplacements_of_empty (h : s.replacements = Keyed.empty) (text : String) :
    s.applyReplacements text = text := by
  rw [applyReplacements, h]
  exact String.ofList_toList

end Settings

namespace Load

variable {f : Files} {places : List Glob.Place}

/-- **Without replacements** what is loaded of a file is what is loaded of it
without a test, sifted by the test. -/
theorem textsOf_eq_filter (hs : s.Plain) (hlimit : t.limit = s.limit)
    (hreplacements : t.replacements = Keyed.empty) (p : Glob.Place) :
    textsOf f t p = (textsOf f s p).filter t.accepts := by
  have hsame : ∀ {s : Settings}, s.replacements = Keyed.empty → s.applyReplacements = id :=
    fun h => funext (Settings.applyReplacements_of_empty h)
  rcases hread : f.read p.location with fault | bytes
  · simp only [textsOf, hread, List.filter_nil]
  · have hlines : t.linesRead (linesOf bytes) = s.linesRead (linesOf bytes) := by
      rw [Settings.linesRead, Settings.linesRead, hlimit]
    have hall : ∀ texts : List String, texts.filter s.accepts = texts := fun texts =>
      List.filter_eq_self.mpr fun text _ => hs.accepts text
    simp only [textsOf, hread, Settings.linesKept, hsame hs.replacements, hsame hreplacements,
      List.map_id, hlines, hall]

/-- Files are loaded up to the same one with both settings, and what is loaded
is sifted. -/
theorem loadFiles_sifted (h : ∀ p, textsOf f t p = (textsOf f s p).filter keep) (log log' : Log) :
    ∃ texts problem, (loadFiles f s places log).2 = (log.appendTexts texts, problem) ∧
      (loadFiles f t places log').2 = (log'.appendTexts (texts.filter keep), problem) := by
  induction places generalizing log log' with
  | nil =>
    refine ⟨[], none, ?_, ?_⟩
    · rw [Log.appendTexts_nil]
      rfl
    · rw [List.filter_nil, Log.appendTexts_nil]
      rfl
  | cons p places ih =>
    rcases hread : f.read p.location with fault | bytes
    · refine ⟨[], some (.unreadable p.path fault), ?_, ?_⟩
      · simp only [loadFiles, hread, Log.appendTexts_nil]
      · simp only [loadFiles, hread, List.filter_nil, Log.appendTexts_nil]
    · obtain ⟨texts, problem, hs, ht⟩ :=
        ih (log.appendTexts (textsOf f s p)) (log'.appendTexts (textsOf f t p))
      refine ⟨textsOf f s p ++ texts, problem, ?_, ?_⟩
      · rw [loadFiles_cons_of_read hread, hs, Log.appendTexts_append]
      · rw [loadFiles_cons_of_read hread, ht, Log.appendTexts_append, h, List.filter_append]

theorem load_sifted (h : ∀ p, textsOf f t p = (textsOf f s p).filter keep) (pattern : String)
    (log log' : Log) :
    ∃ texts problem, (load f s pattern log).2 = (log.appendTexts texts, problem) ∧
      (load f t pattern log').2 = (log'.appendTexts (texts.filter keep), problem) := by
  rcases hfind : find f pattern with problem | places
  · refine ⟨[], some problem, ?_, ?_⟩
    · simp only [load, hfind, Log.appendTexts_nil]
    · simp only [load, hfind, List.filter_nil, Log.appendTexts_nil]
  · simp only [load, hfind]
    exact loadFiles_sifted h log log'

end Load

/-- **The first workspace is the second, sifted**: its log is what is loaded of
the texts that are kept, and of the files it loads the lines that are kept,
too. -/
structure Workspace.Sifted (f : Files) (keep : String → Bool) (v w : Workspace) : Prop where
  loads : ∀ p, Load.textsOf f v.settings p = (Load.textsOf f w.settings p).filter keep
  logs : ∃ texts, v.log = Log.ofTexts (texts.filter keep) ∧ w.log = Log.ofTexts texts

namespace Script

open Workspace

/-- **Loading keeps a workspace sifted**, whether or not it meets a problem, and
meets the same problem. -/
theorem step_load_sifted (h : v.Sifted world.files keep w) (pattern : String) :
    (step world v (.load pattern)).problem = (step world w (.load pattern)).problem ∧
      (step world v (.load pattern)).workspace.Sifted world.files keep
        (step world w (.load pattern)).workspace := by
  obtain ⟨hloads, texts, hv, hw⟩ := h
  have hstep : ∀ u : Workspace, step world u (.load pattern) =
      ⟨(Load.load world.files u.forgetProjection.settings pattern u.log).1,
        ⟨(Load.load world.files u.forgetProjection.settings pattern u.log).2.1,
          u.forgetProjection.settings⟩,
        (Load.load world.files u.forgetProjection.settings pattern u.log).2.2⟩ := fun _ => rfl
  have hforgotten : ∀ p, Load.textsOf world.files v.forgetProjection.settings p =
      (Load.textsOf world.files w.forgetProjection.settings p).filter keep := hloads
  obtain ⟨more, problem, hmore, hmore'⟩ := Load.load_sifted hforgotten pattern w.log v.log
  rw [hstep, hstep, hmore, hmore']
  refine ⟨rfl, hforgotten, texts ++ more, ?_, ?_⟩
  · rw [hv, Log.appendTexts_ofTexts, List.filter_append]
  · rw [hw, Log.appendTexts_ofTexts]

/-- **And so does loading from several patterns**, up to the first that meets a
problem. -/
theorem performAll_load_sifted (h : v.Sifted world.files keep w) (patterns : List String) :
    (performAll world v (patterns.map .load)).1.problem =
        (performAll world w (patterns.map .load)).1.problem ∧
      (performAll world v (patterns.map .load)).1.workspace.Sifted world.files keep
        (performAll world w (patterns.map .load)).1.workspace := by
  induction patterns generalizing v w with
  | nil => exact ⟨rfl, h⟩
  | cons pattern patterns ih =>
    obtain ⟨hsame, hsifted⟩ := step_load_sifted h pattern
    rw [List.map_cons]
    rcases hproblem : (step world w (.load pattern)).problem with _ | problem
    · rw [performAll_cons_of_done hproblem, performAll_cons_of_done (hsame.trans hproblem)]
      exact ih hsifted
    · rw [performAll_cons_of_problem hproblem,
        performAll_cons_of_problem (hsame.trans hproblem)]
      exact ⟨rfl, hsifted⟩

/-! ## A filter on loaded lines and one on the log -/

/-- **The directives ask the same** of lines, the first one before they are
loaded and the second one afterwards. -/
inductive Counterpart : Directive → Directive → Prop
  | require (p : Pattern) : Counterpart (.require p) (.filter .required p)
  | exclude (p : Pattern) : Counterpart (.exclude p) (.filter .remove p)

/-- **The first one sifts what is loaded**, and the second one shows the same
texts of what has been loaded. -/
theorem Counterpart.exists_keep (h : Counterpart x y) :
    ∃ keep : String → Bool,
      (∀ (world : World) (w : Workspace), w.settings.Plain → w.log = [] →
        (step world w x).problem = none ∧
          (step world w x).workspace.Sifted world.files keep w) ∧
        ∀ (world : World) (w : Workspace) (texts : List String), w.log = Log.ofTexts texts →
          (step world w y).problem = none ∧
            (step world w y).workspace.log.shownTexts = texts.filter keep := by
  have hshown : ∀ {kind p keep}, (∀ color text n,
      ((Line.ofText text n).filtered (some p) kind color none).visible = keep text) →
      ∀ (world : World) (w : Workspace) (texts : List String), w.log = Log.ofTexts texts →
        (step world w (.filter kind p)).problem = none ∧
          (step world w (.filter kind p)).workspace.log.shownTexts = texts.filter keep := by
    intro kind p keep hvisible world w texts hlog
    have hfiltered := Log.shownTexts_filterLines (hvisible w.settings.color) texts
    rw [← hlog] at hfiltered
    exact ⟨rfl, hfiltered⟩
  cases h with
  | require p =>
    refine ⟨fun text => p.hasMatch text.toList,
      fun world w hplain hlog => ⟨rfl, ?_, [], hlog, hlog⟩, hshown (Line.visible_required_ofText p)⟩
    rw [← hplain.accepts_required p]
    exact Load.textsOf_eq_filter hplain rfl hplain.replacements
  | exclude p =>
    refine ⟨fun text => !p.hasMatch text.toList,
      fun world w hplain hlog => ⟨rfl, ?_, [], hlog, hlog⟩, hshown (Line.visible_remove_ofText p)⟩
    rw [← hplain.accepts_excluded p]
    exact Load.textsOf_eq_filter hplain rfl hplain.replacements

/-- Scripts of such directives and of loading are accepted. -/
theorem Counterpart.accepted {script other : String} {patterns : List String}
    (h : Counterpart x y) (hscript : parse script = .ok (x :: patterns.map .load))
    (hother : parse other = .ok (patterns.map .load ++ [y, .chop])) :
    Accepted script (x :: patterns.map .load) ∧
      Accepted other (patterns.map .load ++ [y, .chop]) := by
  have hloads : ∀ d ∈ patterns.map Directive.load, d.validate = .ok () := by
    intro d hd
    obtain ⟨pattern, -, rfl⟩ := List.mem_map.mp hd
    rfl
  have hvalid : x.validate = .ok () ∧ y.validate = .ok () := by
    cases h <;> exact ⟨rfl, rfl⟩
  refine ⟨⟨hscript, by simp, firstInvalid?_eq_none_iff.mpr ?_⟩,
    ⟨hother, by simp, firstInvalid?_eq_none_iff.mpr ?_⟩⟩
  · exact List.forall_mem_cons.mpr ⟨hvalid.1, hloads⟩
  · exact List.forall_mem_append.mpr ⟨hloads,
      List.forall_mem_cons.mpr ⟨hvalid.2, List.forall_mem_singleton.mpr rfl⟩⟩

/-- **A filter before loading and its counterpart after it agree.** Start without
lines, without other filters and without replacements, and load from some
patterns: with the one filter set before, what is listed in the end is what
is listed with the other filter and a chop performed afterwards, whether or
not a file cannot be read. Loading meets the same problem, so that of
scripts that do the one and the other both succeed or none, and then they
list the same. -/
theorem sieve_agrees (hxy : Counterpart x y) (hplain : w.settings.Plain) (hlog : w.log = [])
    (world : World) (patterns : List String) :
    let loads := patterns.map Directive.load
    let sifted := (performAll world w (x :: loads)).1
    let loaded := (performAll world w loads).1
    let chopped := (performAll world loaded.workspace [y, .chop]).1
    sifted.problem = loaded.problem ∧ chopped.problem = none ∧
      sifted.workspace.log.listing = chopped.workspace.log.listing ∧
      ∀ script other, parse script = .ok (x :: loads) → parse other = .ok (loads ++ [y, .chop]) →
        (run world script w).success = (run world other w).success ∧
          ((run world script w).success = true →
            (run world script w).workspace.log.listing =
              (run world other w).workspace.log.listing) := by
  intro loads sifted loaded chopped
  obtain ⟨keep, hsets, hshows⟩ := hxy.exists_keep
  obtain ⟨hset, hstart⟩ := hsets world w hplain hlog
  obtain ⟨hproblem, hsifted⟩ := performAll_load_sifted hstart patterns
  have hfirst : sifted.problem = (performAll world (step world w x).workspace loads).1.problem ∧
      sifted.workspace = (performAll world (step world w x).workspace loads).1.workspace := by
    have hcons : performAll world w (x :: loads) = _ := performAll_cons_of_done hset
    exact ⟨congrArg (·.1.problem) hcons, congrArg (·.1.workspace) hcons⟩
  obtain ⟨texts, hkept, htexts⟩ := hsifted.logs
  obtain ⟨hdone, hshown⟩ := hshows world loaded.workspace texts htexts
  have hlast : Leads world loaded.workspace [y, .chop]
      (step world (step world loaded.workspace y).workspace .chop).workspace :=
    leads_cons.mpr ⟨hdone, leads_cons.mpr ⟨rfl, leads_nil.mpr rfl⟩⟩
  have hlisting : sifted.workspace.log.listing = chopped.workspace.log.listing := by
    calc sifted.workspace.log.listing
        = (Log.ofTexts (texts.filter keep)).listing := by rw [hfirst.2, hkept]
      _ = (step world loaded.workspace y).workspace.log.chop.2.listing := by
          rw [Log.listing_chop, hshown]
      _ = chopped.workspace.log.listing := by
          rw [hlast.workspace]
          rfl
  have hsame : sifted.problem = loaded.problem := hfirst.1.trans hproblem
  refine ⟨hsame, hlast.problem, hlisting, fun script other hscript hother => ?_⟩
  obtain ⟨haccepted, haccepted'⟩ := hxy.accepted hscript hother
  rcases hloaded : loaded.problem with _ | problem
  · have hbefore : Leads world w (x :: loads) sifted.workspace := ⟨hsame.trans hloaded, rfl⟩
    have hafter : Leads world w (loads ++ [y, .chop]) chopped.workspace :=
      leads_append.mpr ⟨loaded.workspace, ⟨hloaded, rfl⟩, hlast.problem, rfl⟩
    obtain ⟨hworkspace, hsuccess⟩ := hbefore.run_accepted haccepted
    obtain ⟨hworkspace', hsuccess'⟩ := hafter.run_accepted haccepted'
    rw [hworkspace, hworkspace', hsuccess, hsuccess']
    exact ⟨rfl, fun _ => hlisting⟩
  · -- both scripts fail where the file is that cannot be read
    have hfails : (run world script w).success = false := by
      rw [run_of_accepted haccepted, Bool.eq_false_iff, ne_eq, execute_success_iff]
      exact fun hnone => nomatch hnone.symm.trans (hsame.trans hloaded)
    have hfails' : (run world other w).success = false := by
      have hstops : performAll world w (loads ++ [y, .chop]) = performAll world w loads :=
        performAll_append_of_problem hloaded
      rw [run_of_accepted haccepted', Bool.eq_false_iff, ne_eq, execute_success_iff, hstops]
      exact fun hnone => nomatch hnone.symm.trans hloaded
    rw [hfails, hfails']
    exact ⟨rfl, fun hsuccess => nomatch hsuccess⟩

/-- Of a file that a limit cuts a line with a match is kept, and an empty one,
in which the match is empty, too. -/
theorem sieve_agrees_of_limit :
    let world : World :=
      ⟨(Files.empty []).write ["a"] (Text.Utf8.encode "ab\n\nc\nb"), ⟨0, 0⟩, 0, none⟩
    let w : Workspace := ⟨[], { Settings.initial with limit := 3 }⟩
    let script := "require b|^$\n< a"
    let other := "< a\n= b|^$\nchop"
    ∃ x y, Counterpart x y ∧ w.settings.Plain ∧ w.log = [] ∧ parse script = .ok [x, .load "a"] ∧
      parse other = .ok [.load "a", y, .chop] ∧ (run world script w).success = true ∧
      (run world script w).workspace.log.listing = [("ab", 1), ("", 2)] ∧
      (run world other w).workspace.log.listing = [("ab", 1), ("", 2)] := by
  intro world w script other
  have hfound : (Pattern.ofSource "b|^$").toOption.map (·.source) = some "b|^$" := by
    decide +kernel
  obtain ⟨p, hp, -⟩ := Pattern.exists_ofSource hfound
  have hrequire : parseLine "require b|^$" = .ok (some (.require p)) := by
    have hline : parseLine "require b|^$" = ((Pattern.ofSource "b|^$").mapError .rejected >>=
        fun p => .ok (some (.require p))) := by rfl
    rw [hline, hp]
    rfl
  have hfilter : parseLine "= b|^$" = .ok (some (.filter .required p)) := by
    have hline : parseLine "= b|^$" = ((Pattern.ofSource "b|^$").mapError .rejected >>=
        fun p => .ok (some (.filter .required p))) := by rfl
    rw [hline, hp]
    rfl
  have hload : parseLine "< a" = .ok (some (.load "a")) := by rfl
  have hchop : parseLine "chop" = .ok (some .chop) := by rfl
  have hscript : parse script = .ok [.require p, .load "a"] := by
    have hcontent : Text.content script.toList = ["require b|^$".toList, "< a".toList] := by
      decide
    rw [parse_eq_ok_iff, hcontent]
    exact .text hrequire (.text hload .nil)
  have hother : parse other = .ok [.load "a", .filter .required p, .chop] := by
    have hcontent : Text.content other.toList =
        ["< a".toList, "= b|^$".toList, "chop".toList] := by decide
    rw [parse_eq_ok_iff, hcontent]
    exact .text hload (.text hfilter (.text hchop .nil))
  have hplain : w.settings.Plain := ⟨rfl, rfl, rfl⟩
  have hsuccess : (run world script w).success = true := by decide +kernel
  have hlisting : (run world script w).workspace.log.listing = [("ab", 1), ("", 2)] := by
    decide +kernel
  obtain ⟨-, -, -, hscripts⟩ := sieve_agrees (.require p) hplain rfl world ["a"]
  obtain ⟨-, hsame⟩ := hscripts script other hscript hother
  exact ⟨_, _, .require p, hplain, rfl, hscript, hother, hsuccess, hlisting,
    (hsame hsuccess).symm.trans hlisting⟩

end Script

end LogSift
