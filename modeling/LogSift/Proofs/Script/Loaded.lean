import Mathlib.Data.List.Forall2
import LogSift.Proofs.Files.Order
import LogSift.Proofs.Keyed
import LogSift.Proofs.Script.Frame
import LogSift.Proofs.Script.Loading
import LogSift.Proofs.Text.Replacing
/-!
# What is loaded of readable files

Of a file that can be read the first lines up to the limit are read, the
limit counting anew for every file; those of them are kept that the filters
admit as they stand, and the replacements are made in what is kept
(`Load.FileTaken`). The files come in their order, and their texts go to the end
of the log in it (`Load.FilesTaken`), numbered on from its length
(`load_exact`). The replacements come in the order of what they replace,
since every directive keeps them in it
(`Directive.perform_replacements_ordered`).
-/


namespace LogSift

namespace Settings

/-- **A line is admitted**: it matches all that is required and nothing that is excluded. -/
def Admits (s : Settings) (raw : List Char) : Prop :=
  (∀ p ∈ s.required, p.hasMatch raw = true) ∧ ∀ p ∈ s.excluded, p.hasMatch raw = false

instance (s : Settings) (raw : List Char) : Decidable (s.Admits raw) :=
  inferInstanceAs (Decidable ((∀ p ∈ s.required, p.hasMatch raw = true) ∧
    ∀ p ∈ s.excluded, p.hasMatch raw = false))

theorem accepts_ofList (s : Settings) (raw : List Char) :
    s.accepts (String.ofList raw) = decide (s.Admits raw) := by
  rw [Bool.eq_iff_iff, decide_eq_true_iff]
  simp [accepts, Admits]

/-- **The replacements in the order of the texts they replace.** -/
structure Replaces (s : Settings) (rs : List (String × String)) : Prop where
  ordered : rs.Pairwise (·.1 < ·.1)
  mem_iff : ∀ old new, (old, new) ∈ rs ↔ s.replacements.find? old = some new

/-- **Replacements are made one after the other**, each in what the ones before it have left. -/
inductive Rewrites : List (String × String) → List Char → List Char → Prop
  | nil (cs : List Char) : Rewrites [] cs cs
  | cons {old new : String} {rs : List (String × String)} {cs cs' cs'' : List Char} :
      Text.Replaced old.toList new.toList cs cs' → Rewrites rs cs' cs'' →
      Rewrites ((old, new) :: rs) cs cs''

theorem rewrites_foldl (rs : List (String × String)) (cs : List Char) :
    Rewrites rs cs (rs.foldl (fun acc e => substitute e.1.toList e.2.toList acc) cs) := by
  induction rs generalizing cs with
  | nil => exact .nil cs
  | cons e rs ih => exact .cons (Text.substitute_replaced ..) (ih _)

end Settings

namespace Load

variable {f : Files} {s : Settings} {rs : List (String × String)} {places : List Glob.Place}

/-! ## One file -/

/-- **What is made of the lines of a file**: which texts are added to the log, and how many lines are
read, kept and discarded. -/
structure FileTaken (s : Settings) (rs : List (String × String)) (lines : List (List Char))
    (texts : List String) (read kept discarded : Nat) : Prop where
  /-- No more lines are read than the limit, if there is one. -/
  read_eq : read = if s.limit = 0 then lines.length else min s.limit lines.length
  /-- The lines read that are admitted make the texts. -/
  made : List.Forall₂ (fun raw text => Settings.Rewrites rs raw text.toList)
    ((lines.take read).filter fun raw => s.Admits raw) texts
  kept_eq : kept = texts.length
  sum : kept + discarded = read

theorem length_linesRead (s : Settings) (lines : List (List Char)) :
    (s.linesRead lines).length = if s.limit = 0 then lines.length else min s.limit lines.length := by
  rw [Settings.linesRead]
  split
  · rfl
  · exact List.length_take

theorem linesRead_eq_take (s : Settings) (lines : List (List Char)) :
    s.linesRead lines = lines.take (s.linesRead lines).length := by
  rw [Settings.linesRead]
  split
  · exact List.take_length.symm
  · rw [List.length_take, ← List.take_take, List.take_length]

theorem linesKept_eq (s : Settings) (lines : List (List Char)) :
    s.linesKept lines =
      ((s.linesRead lines).filter fun raw => s.Admits raw).map String.ofList := by
  rw [Settings.linesKept, List.filter_map]
  congr 2
  exact funext s.accepts_ofList

theorem fileTaken_linesKept (hrs : rs = s.replacements.entries) (lines : List (List Char)) :
    FileTaken s rs lines ((s.linesKept lines).map s.applyReplacements)
      (s.linesRead lines).length (s.linesKept lines).length
      ((s.linesRead lines).length - (s.linesKept lines).length) where
  read_eq := length_linesRead s lines
  made := by
    rw [← linesRead_eq_take, linesKept_eq, List.map_map, List.forall₂_map_right_iff]
    refine List.forall₂_same.mpr fun raw _ => ?_
    simp only [Function.comp_apply, Settings.applyReplacements, String.toList_ofList, hrs]
    exact Settings.rewrites_foldl ..
  kept_eq := (List.length_map _).symm
  sum := by
    have hle : (s.linesKept lines).length ≤ (s.linesRead lines).length := by
      rw [linesKept_eq, List.length_map]
      exact List.length_filter_le ..
    omega

/-- What is reported of a file in the end: the record, and the sentence for the user. -/
def countReports (path : String) (read kept discarded : Nat) : List Report := [
  .info "loaded log file"
    [("file", path), ("read", toString read), ("kept", toString kept)],
  .progress (s!"... read {Text.grouped read} lines, kept {Text.grouped kept}, " ++
    s!"discarded {Text.grouped discarded}")]

/-- What comes before that tells of the progress. -/
theorem reports_eq (path : String) (s : Settings) (lines : List (List Char)) :
    ∃ steps : List String, reports path s lines = steps.map .progress ++
      countReports path (s.linesRead lines).length (s.linesKept lines).length
        ((s.linesRead lines).length - (s.linesKept lines).length) := by
  refine ⟨s!"... processing {Text.grouped lines.length} lines" ::
    (milestones s.limit (s.linesRead lines).length).map (fun n => s!"... {Text.grouped n}") ++
    (if 0 < s.limit && (s.linesRead lines).length = s.limit then
      [s!"... reached file limit of {Text.grouped s.limit} lines"]
    else []), ?_⟩
  rw [reports, countReports, List.map_append, List.map_cons, List.map_map]
  split <;> rfl

/-! ## All files -/

/-- **Files are loaded one after the other**, with what is reported of each and the texts that are
added. -/
inductive FilesTaken (f : Files) (s : Settings) (rs : List (String × String)) :
    List Glob.Place → List Report → List String → Prop
  | nil : FilesTaken f s rs [] [] []
  | cons {p : Glob.Place} {places : List Glob.Place} {bytes : List UInt8}
      {texts more steps : List String} {read kept discarded : Nat} {reports : List Report} :
      f.read p.location = .ok bytes → FileTaken s rs (linesOf bytes) texts read kept discarded →
      FilesTaken f s rs places reports more →
      FilesTaken f s rs (p :: places)
        (.progress s!"Reading file {p.path}" :: steps.map .progress ++
          countReports p.path read kept discarded ++ reports)
        (texts ++ more)

/-- **Where all files can be read, all are loaded.** -/
theorem filesTaken_loadFiles (hrs : rs = s.replacements.entries)
    (hread : ∀ p ∈ places, ∃ bytes, f.read p.location = .ok bytes) (log : Log) :
    ∃ texts, FilesTaken f s rs places (loadFiles f s places log).1 texts ∧
      (loadFiles f s places log).2 = (log.appendTexts texts, none) := by
  induction places generalizing log with
  | nil => exact ⟨[], .nil, by rw [Log.appendTexts_nil]; rfl⟩
  | cons p places ih =>
    obtain ⟨⟨bytes, hbytes⟩, hplaces⟩ := List.forall_mem_cons.mp hread
    obtain ⟨texts, htaken, hlog⟩ := ih hplaces (log.loadLines s (linesOf bytes))
    obtain ⟨steps, hsteps⟩ := reports_eq p.path s (linesOf bytes)
    have hloaded : loadFiles f s (p :: places) log =
        (.progress s!"Reading file {p.path}" :: reports p.path s (linesOf bytes) ++
            (loadFiles f s places (log.loadLines s (linesOf bytes))).1,
          (loadFiles f s places (log.loadLines s (linesOf bytes))).2) := by
      simp only [loadFiles, hbytes]
    refine ⟨(s.linesKept (linesOf bytes)).map s.applyReplacements ++ texts, ?_, ?_⟩
    · rw [hloaded, hsteps]
      exact .cons hbytes (fileTaken_linesKept hrs _) htaken
    · rw [hloaded, hlog, Log.loadLines, Log.appendTexts_append]

/-- **Where a pattern leads to files that can be read, all are loaded**, and it is a problem if there
are none. -/
theorem filesTaken_load {pattern : String} {g : Glob} (hrs : rs = s.replacements.entries)
    (hglob : Glob.read pattern = .ok g)
    (hread : ∀ p ∈ g.files f, ∃ bytes, f.read p.location = .ok bytes) (log : Log) :
    ∃ texts, FilesTaken f s rs (g.files f) (load f s pattern log).1 texts ∧
      (load f s pattern log).2.1 = log.appendTexts texts ∧
      ((load f s pattern log).2.2 = none ↔ g.files f ≠ []) := by
  rcases hfiles : g.files f with _ | ⟨p, places⟩
  · have hload : load f s pattern log = ([], log, some (.noFiles pattern f.here)) := by
      simp only [load, find, hglob, hfiles]
    rw [hload]
    exact ⟨[], .nil, (Log.appendTexts_nil log).symm, by simp⟩
  · have hload : load f s pattern log = loadFiles f s (p :: places) log := by
      simp only [load, find, hglob, hfiles]
    rw [hfiles] at hread
    obtain ⟨texts, htaken, hloaded⟩ := filesTaken_loadFiles hrs hread log
    rw [hload, hloaded]
    exact ⟨texts, htaken, rfl, by simp⟩

end Load

/-! ## The order of the replacements -/

/-- **Every directive keeps the replacements in order.** -/
theorem Directive.perform_replacements_ordered {w : Workspace}
    (h : w.settings.replacements.Ordered) (world : World) (d : Directive) :
    (d.perform world w).workspace.settings.replacements.Ordered := by
  by_cases hchanges : d.changesLog = true
  · rw [perform_settings hchanges]
    exact h
  cases d with
  | load | demo | chop | clear | truncate | addField | keyValues | sort | sed | filter
  | hideUnmatched | today | divideByPattern | divideByField | filterSections | duplicates =>
    exact absurd rfl hchanges
  | replace old new => exact h.insert old new
  | require | exclude | clearFilters | limit | color | dateFormat | query | sleep => exact h
  | requireToday =>
    rw [perform]
    split <;> exact h

theorem Script.step_replacements_ordered {w : Workspace} (h : w.settings.replacements.Ordered)
    (world : World) (d : Directive) :
    (step world w d).workspace.settings.replacements.Ordered :=
  step_invariant (P := fun w => w.settings.replacements.Ordered) (fun _ h => h)
    (fun _ h => d.perform_replacements_ordered h world) h

namespace Directive

/-- **Loading keeps exactly the accepted lines.** Take a pattern that leads to some files, all of which
can be read. They are loaded in the order in which they were created, and those of one time in
the order of their paths, and unless there are none no problem is met. The lines of the log stay as
they are, and the texts of the files follow them, one file after the other, numbered on from the
length of the log. The texts of a file are those of its first lines, up to the limit if there is one,
that match everything required and nothing excluded as they stand, with the replacements made
one after the other in the order of what they replace. What is reported for each file are the
numbers of lines read, kept and discarded; the latter two make up the first, which is the number
of lines in the file or the limit, if there is one and it is less. -/
theorem load_exact {world : World} {w : Workspace} {pattern : String} {g : Glob}
    (hglob : Glob.read pattern = .ok g)
    (hread : ∀ p ∈ g.files world.files, ∃ bytes, world.files.read p.location = .ok bytes)
    (hkeys : w.settings.replacements.Ordered) :
    let places := g.files world.files
    let done := (Directive.load pattern).perform world w
    places.Pairwise (Glob.Precedes world.files) ∧
      places.Perm ((Glob.walk world.files g.components (g.start world.files)).filter fun p =>
        !g.directories && world.files.isFile p.location) ∧
      (done.problem = none ↔ places ≠ []) ∧
      done.workspace.settings = w.settings ∧
      ∃ rs texts, w.settings.Replaces rs ∧
        Load.FilesTaken world.files w.settings rs places done.reports texts ∧
        done.workspace.log =
          w.log ++ texts.mapIdx fun k text => Line.ofText text (w.log.length + k + 1) := by
  refine ⟨g.pairwise_files world.files, g.files_perm world.files, ?_⟩
  have hrs : w.settings.Replaces w.settings.replacements.entries :=
    ⟨hkeys, fun _ _ => hkeys.mem_entries⟩
  obtain ⟨texts, htaken, hlog, hproblem⟩ :=
    Load.filesTaken_load (s := w.settings) rfl hglob hread w.log
  exact ⟨hproblem, rfl, _, texts, hrs, htaken, hlog⟩

/-- Two files are loaded, the one created first with the greater path, and of the other only three
lines are read. The second replacement finds what the first has put in. -/
theorem load_exact_of_two_files :
    let files := ((Files.empty []).write ["b"] (Text.Utf8.encode "xb\n")).write ["a"]
      (Text.Utf8.encode "xa\nxz\ny\nxa\n")
    let world : World := ⟨files, ⟨0, 0⟩, 0, none⟩
    let w := (Script.run world "require x\nexclude z\nlimit 3\nreplace b c\nreplace a b"
      ⟨[Line.ofText "k" 1], Settings.initial⟩).workspace
    let done := (Directive.load "*").perform world w
    done.problem = none ∧
      (∃ rs texts, w.settings.Replaces rs ∧
        Load.FilesTaken files w.settings rs [⟨"b", ["b"]⟩, ⟨"a", ["a"]⟩] done.reports texts) ∧
      done.workspace.log = [Line.ofText "k" 1, Line.ofText "xc" 2, Line.ofText "xc" 3] := by
  intro files world w done
  have hglob : Glob.read "*" = .ok ⟨"*", false, [.wild [.anyText]], false⟩ := by
    have hread : (Glob.read "*").toOption = some ⟨"*", false, [.wild [.anyText]], false⟩ := by
      decide +kernel
    rcases hglob : Glob.read "*" with fault | g
    · rw [hglob] at hread
      cases hread
    · rw [hglob] at hread
      exact congrArg _ (Option.some.inj hread)
  have hfiles : (Glob.mk "*" false [.wild [.anyText]] false).files files =
      [⟨"b", ["b"]⟩, ⟨"a", ["a"]⟩] := by
    have hfound : ((Glob.walk files [.wild [.anyText]] ⟨".", []⟩).filter fun p =>
        files.isFile p.location) = [⟨"b", ["b"]⟩, ⟨"a", ["a"]⟩] := by decide +kernel
    exact (congrArg (List.mergeSort · (Glob.precedes files)) hfound).trans
      (List.mergeSort_of_pairwise (by decide +kernel))
  have hkeys : w.settings.replacements.Ordered :=
    Script.run_invariant (P := fun w => w.settings.replacements.Ordered)
      (fun _ d h => Script.step_replacements_ordered h world d) Keyed.ordered_empty
  have hread : ∀ p ∈ (Glob.mk "*" false [.wild [.anyText]] false).files files,
      ∃ bytes, files.read p.location = .ok bytes := by
    rw [hfiles]
    simp only [List.forall_mem_cons]
    exact ⟨⟨_, rfl⟩, ⟨_, rfl⟩, List.forall_mem_nil _⟩
  have hload : Load.load files w.settings "*" w.log =
      Load.loadFiles files w.settings [⟨"b", ["b"]⟩, ⟨"a", ["a"]⟩] w.log := by
    simp only [Load.load, Load.find, hglob, hfiles]
  have hlog : done.workspace.log = (Load.load files w.settings "*" w.log).2.1 := rfl
  obtain ⟨-, -, hproblem, -, rs, texts, hrs, htaken, -⟩ :=
    @load_exact world w "*" _ hglob hread hkeys
  refine ⟨hproblem.mpr ?_, ⟨rs, texts, hrs, hfiles ▸ htaken⟩, ?_⟩
  · rw [hfiles]
    exact List.cons_ne_nil _ _
  · rw [hlog, hload]
    decide +kernel

end Directive

end LogSift
