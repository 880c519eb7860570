import LogSift.Proofs.Log.Numbers
import LogSift.Proofs.Session.Steps
/-!
# Line numbers over whole sessions

Sorting is the only directive that moves lines without numbering them
anew, and it moves their numbers with them. So after any scripts, run and
taken back, each number from one to the length of the log belongs to one
line, and an address of one number selects one line
(`numbered_once`). As long as nothing is sorted the lines are numbered in
order, and the directives that put lines in or take some out restore that
order (`Directive.NumbersAnew`).
-/


namespace LogSift

namespace Directive

/-- **The directive numbers all lines of a log anew**: it takes lines out,
puts lines in, or finds kinds of lines to summarize. -/
inductive NumbersAnew (log : Log) : Directive → Prop
  | chop : NumbersAnew log .chop
  | delete (address : Option Address) : NumbersAnew log (.sed address .delete)
  | insert (address : Option Address) (text : String) :
      NumbersAnew log (.sed address (.insert text))
  | append (address : Option Address) (text : String) :
      NumbersAnew log (.sed address (.append text))
  | duplicates {threshold : Nat} : 0 < (log.detectDuplicates threshold Text.kindOf).1 →
      NumbersAnew log (.duplicates threshold)

/-- Whatever the numbers were before. -/
theorem NumbersAnew.numbered {w : Workspace} {d : Directive} (h : d.NumbersAnew w.log)
    (world : World) : (d.perform world w).workspace.log.Numbered := by
  cases h with
  | chop | delete | insert | append => exact Log.numbered_renumber _
  | duplicates hfound => exact Log.numbered_detectDuplicates hfound

/-- **Every directive keeps a number to a line**, `sort` included. -/
theorem perform_numberedOnce {w : Workspace} (h : w.log.NumberedOnce) (world : World)
    (d : Directive) : (d.perform world w).workspace.log.NumberedOnce := by
  by_cases hsort : ∃ fields, d = .sort fields
  · -- lines are moved, and their numbers with them
    obtain ⟨fields, rfl⟩ := hsort
    exact h.of_perm (List.mergeSort_perm _ _)
  · exact h.of_renumbers (perform_renumbers (fun fields hd => hsort ⟨fields, hd⟩) world w)

end Directive

theorem Script.step_numberedOnce {w : Workspace} (h : w.log.NumberedOnce) (world : World)
    (d : Directive) : (step world w d).workspace.log.NumberedOnce :=
  step_invariant (P := fun w => w.log.NumberedOnce) (fun _ h => h)
    (fun _ h => d.perform_numberedOnce h world) h

namespace Session

/-- **Line numbers over whole sessions.** After any scripts run and taken
back, failing ones among them, the numbers of the lines are those from one
to the length of the log in some order: none is shared, and an address of
one of them selects one line. Every directive but `sort` keeps lines
numbered in order, and those that number them anew put them in order
whatever their numbers were. -/
theorem numbered_once (settings : Settings) (budget : Nat) (steps : List Step) :
    (let log := ((start settings budget).after steps).workspace.log
     log.numbers.Perm (List.range' 1 log.length) ∧ log.numbers.Nodup ∧
       ∀ n, 1 ≤ n → n ≤ log.length →
         log.countP (Address.selects? (some (.lines n n))) = 1) ∧
      (∀ (world : World) (w : Workspace) (d : Directive), (∀ fields, d ≠ .sort fields) →
        w.log.Numbered → (d.perform world w).workspace.log.Numbered) ∧
      ∀ (world : World) (w : Workspace) (d : Directive), d.NumbersAnew w.log →
        (d.perform world w).workspace.log.Numbered := by
  have honce : ((start settings budget).after steps).workspace.log.NumberedOnce :=
    after_invariant (P := fun w => w.log.NumberedOnce)
      (fun world _ d h => Script.step_numberedOnce h world d) (List.Perm.refl _) budget steps
  refine ⟨⟨honce, honce.nodup, fun n hn hle => honce.countP_selects hn hle⟩, ?_, ?_⟩
  · intro world w d hsort hw
    exact hw.of_renumbers (Directive.perform_renumbers hsort world w)
  · intro world w d hanew
    exact hanew.numbered world

/-- A script takes the first of two lines out, loads both again and fails
then. Three lines are left, and the number two selects one of them. A cut
keeps them in order, and where their order is turned round a chop restores
it. -/
theorem numbered_once_of_failing :
    let world : World :=
      { World.bare with files := (Files.empty []).write ["a"] (Text.Utf8.encode "x\ny") }
    let log := ((start Settings.initial 9).after
      [.run world "< a", .run world "- x\nchop\n< a\n< b"]).workspace.log
    log.map (fun l => (l.number, l.text)) = [(1, "y"), (2, "x"), (3, "y")] ∧
      log.countP (Address.selects? (some (.lines 2 2))) = 1 ∧
      (Directive.perform world ⟨log, Settings.initial⟩ (.truncate 1)).workspace.log.Numbered ∧
      (Directive.perform world ⟨log.reverse, Settings.initial⟩ .chop).workspace.log.Numbered := by
  intro world log
  have hlog : log.map (fun l => (l.number, l.text)) = [(1, "y"), (2, "x"), (3, "y")] := by
    decide +kernel
  have hlength : log.length = 3 := by
    rw [← List.length_map (fun l : Line => (l.number, l.text)), hlog]
    rfl
  have hnumbered : log.Numbered := by
    have hnumbers : log.numbers = (log.map (fun l => (l.number, l.text))).map (·.1) := by
      rw [List.map_map]
      rfl
    rw [Log.Numbered, hnumbers, hlog, hlength]
    rfl
  obtain ⟨⟨-, -, hselects⟩, hkept, hanew⟩ := numbered_once Settings.initial 9
    [.run world "< a", .run world "- x\nchop\n< a\n< b"]
  refine ⟨hlog, hselects 2 (by decide) (hlength ▸ by decide), ?_, ?_⟩
  · exact hkept world ⟨log, Settings.initial⟩ (.truncate 1) (fun fields => by simp) hnumbered
  · exact hanew world _ .chop .chop

end Session

end LogSift
