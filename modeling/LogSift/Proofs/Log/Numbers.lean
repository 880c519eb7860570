import LogSift.Proofs.Line.Frame
import LogSift.Proofs.Log.Lines
import LogSift.Proofs.Script.Loading
import LogSift.Script.Perform
/-!
# The numbers of lines

A log is `Numbered` if its lines are numbered from one on in order. What
works on lines in place leaves their numbers alone, what adds lines at the
end numbers them on from the length, and what puts lines in or takes some
out numbers all anew (`Renumbers`). Sorting moves lines with their numbers,
so after it only this is left: each number from one to the length belongs
to one line (`NumberedOnce`). Either property is kept, the first by all but
sorting, the second by everything (`perform_renumbers`).
-/


namespace LogSift

namespace Log

variable {log before after : Log} {op : Line → Option Line}

/-- The numbers of the lines. -/
def numbers (log : Log) : List Nat := log.map (·.number)

/-- **The lines are numbered in order**, from one on. -/
def Numbered (log : Log) : Prop := log.numbers = List.range' 1 log.length

/-- **Each number from one to the length belongs to one line**, whatever
their order. -/
def NumberedOnce (log : Log) : Prop := log.numbers.Perm (List.range' 1 log.length)

@[simp] theorem length_numbers (log : Log) : log.numbers.length = log.length := List.length_map _

@[simp] theorem numbers_append (log more : Log) :
    numbers (log ++ more) = log.numbers ++ more.numbers := List.map_append

theorem Numbered.once (h : log.Numbered) : log.NumberedOnce := by
  rw [NumberedOnce, h]

theorem NumberedOnce.nodup (h : log.NumberedOnce) : log.numbers.Nodup :=
  h.nodup_iff.mpr (List.nodup_range' 1)

/-- Then an address of one number selects one line. -/
theorem NumberedOnce.countP_selects {n : Nat} (h : log.NumberedOnce) (hn : 1 ≤ n)
    (hle : n ≤ log.length) : log.countP (Address.selects? (some (.lines n n))) = 1 := by
  -- the lines that the address selects are those with the number
  have hselects : log.countP (Address.selects? (some (.lines n n))) = log.numbers.count n := by
    rw [List.count_eq_countP, numbers, List.countP_map]
    refine List.countP_congr fun l _ => ?_
    simp only [Address.selects?, Option.all_some, Address.selects, Address.inRange, Address.lines,
      Address.patternMatches, Bool.and_true, Bool.and_eq_true, decide_eq_true_eq,
      Function.comp_apply, beq_iff_eq]
    omega
  rw [hselects, h.nodup.count, if_pos]
  rw [h.mem_iff, List.mem_range'_1]
  omega

/-! ## Numbering -/

theorem numbered_renumber (log : Log) : (renumber log).Numbered := by
  refine List.ext_getElem (by simp [renumber]) fun i _ _ => ?_
  simp [numbers, renumber, Nat.add_comm]

/-- Texts are numbered on from the length. -/
theorem numbers_appendTexts (log : Log) (texts : List String) :
    (log.appendTexts texts).numbers =
      log.numbers ++ List.range' (log.length + 1) texts.length := by
  rw [appendTexts, numbers_append]
  refine congrArg _ (List.ext_getElem (by simp) fun i _ _ => ?_)
  simp [numbers, Line.ofText]
  omega

/-! ## Work in place -/

/-- **Changing lines** leaves their numbers alone if the change does. -/
theorem numbers_update (hop : ∀ l l', op l = some l' → l'.number = l.number) (log : Log) :
    (update op log).numbers = log.numbers := by
  rw [update, numbers, List.map_map]
  refine List.map_congr_left fun l _ => ?_
  rcases hl : op l with _ | l'
  · simp [hl]
  · simpa [hl] using hop l l' hl

theorem numbers_update_ite {c : Line → Prop} [DecidablePred c] {f : Line → Line}
    (hf : ∀ l, (f l).number = l.number) (log : Log) :
    (update (fun l => if c l then some (f l) else none) log).numbers = log.numbers := by
  refine numbers_update (fun l l' hop => ?_) log
  split at hop
  · exact Option.some.inj hop ▸ hf l
  · cases hop

theorem numbers_truncate (limit : Nat) (log : Log) :
    (log.truncate limit).2.numbers = log.numbers := by
  refine numbers_update_ite (fun l => ?_) log
  obtain ⟨_, _, hl⟩ := l.truncate_frame limit
  rw [hl]

theorem numbers_parseFields (p : Pattern) (log : Log) :
    (log.parseFields p).2.numbers = log.numbers := by
  refine numbers_update (fun l l' hop => ?_) log
  dsimp only at hop
  split at hop
  · cases hop
  · exact Option.some.inj hop ▸ rfl

theorem numbers_addField (add known : String) (log : Log) :
    (log.addField add known).2.numbers = log.numbers := by
  refine numbers_update (fun l l' hop => ?_) log
  rw [fill?] at hop
  split at hop
  · cases hop
  · obtain ⟨told, -, rfl⟩ := Option.map_eq_some_iff.mp hop
    rfl

theorem numbers_filterLines (pattern : Option Pattern) (kind : FilterKind) (color : Color)
    (address : Option Address) (log : Log) :
    (log.filterLines pattern kind color address).2.numbers = log.numbers := by
  rw [numbers, filterLines, List.map_map]
  refine List.map_congr_left fun l _ => ?_
  obtain ⟨_, _, _, _, hl⟩ :=
    l.filtered_frame ((address.bind (·.pattern)).or pattern) kind color address
  rw [Function.comp_apply, hl]

theorem numbers_hideUnmatched (log : Log) : log.hideUnmatched.2.numbers = log.numbers :=
  numbers_update_ite (f := fun l => { l with visible := false }) (fun _ => rfl) log

theorem number_startSection (l : Line) (color : Color) :
    (l.startSection color).number = l.number := by
  obtain ⟨_, hl⟩ := l.startSection_frame color
  rw [hl]

theorem numbers_divideByPattern (p : Pattern) (color : Color) (log : Log) :
    (log.divideByPattern p color).2.numbers = log.numbers :=
  numbers_update_ite (fun l => number_startSection l color) log

theorem numbers_divideByField (field : String) (color : Color) (log : Log) :
    (log.divideByField field color).2.numbers = log.numbers := by
  rw [divideByField]
  refine List.ext_getElem (by simp [numbers, fieldChanges]) fun i _ _ => ?_
  simp only [numbers, List.getElem_map, List.getElem_zipWith]
  split
  · exact number_startSection _ color
  · rfl

theorem numbers_filterSection (p : Pattern) (kind : FilterKind) (lines : Log) :
    (filterSection p kind lines).numbers = lines.numbers := by
  rw [filterSection]
  split
  · rfl
  · rw [numbers, numbers, List.map_map]
    rfl

theorem numbers_filterSections (p : Pattern) (kind : FilterKind) (log : Log) :
    (log.filterSections p kind).2.numbers = log.numbers := by
  have hparts : ∀ parts : List Log,
      numbers (parts.flatMap (filterSection p kind)) = numbers parts.flatten := by
    intro parts
    induction parts with
    | nil => rfl
    | cons lines parts ih =>
      rw [List.flatMap_cons, List.flatten_cons, numbers_append, numbers_append, ih,
        numbers_filterSection]
  rw [filterSections, hparts, flatten_sections]

theorem numbers_replace (p : Pattern) (replacement : String) (all : Bool)
    (address : Option Address) (log : Log) :
    (log.replace p replacement all address).2.numbers = log.numbers := by
  refine numbers_update (fun l l' hop => ?_) log
  split at hop
  · obtain ⟨_, _, rfl⟩ := Line.replace?_frame hop
    rfl
  · cases hop

theorem numbers_change (address : Option Address) (text : String) (color : Color) (log : Log) :
    (log.change address text color).2.numbers = log.numbers := by
  refine numbers_update_ite (fun l => ?_) log
  obtain ⟨_, hl⟩ := l.setText_frame text color
  rw [hl]

/-- Where summaries are put at the top all lines are numbered anew. -/
theorem numbered_detectDuplicates {threshold : Nat} {normalize : String → String}
    (h : 0 < (log.detectDuplicates threshold normalize).1) :
    (log.detectDuplicates threshold normalize).2.Numbered := by
  rw [detectDuplicates] at h ⊢
  split
  · simp_all
  · exact numbered_renumber _

/-! ## What becomes of numbers -/

/-- **What becomes of the numbers of a log** where lines are not moved. -/
inductive Renumbers (before : Log) : Log → Prop
  /-- They stay, and lines at the end are numbered on from the length. -/
  | extended {after : Log} (added : Nat) :
      after.numbers = before.numbers ++ List.range' (before.length + 1) added →
      Renumbers before after
  /-- All lines are numbered anew. -/
  | anew {after : Log} : after.Numbered → Renumbers before after

/-- They stay. -/
theorem Renumbers.of_eq (h : after.numbers = before.numbers) : Renumbers before after :=
  .extended 0 (by simp [h])

theorem Renumbers.appendTexts (log : Log) (texts : List String) :
    Renumbers log (log.appendTexts texts) :=
  .extended texts.length (numbers_appendTexts log texts)

theorem length_of_extended {added : Nat}
    (h : after.numbers = before.numbers ++ List.range' (before.length + 1) added) :
    after.length = before.length + added := by
  rw [← length_numbers after, h, List.length_append, length_numbers, List.length_range']

/-- The numbers from one on, and those that follow. -/
theorem range'_extended (n added : Nat) :
    List.range' 1 n ++ List.range' (n + 1) added = List.range' 1 (n + added) := by
  rw [Nat.add_comm n 1, List.range'_append_1]

/-- Without summaries the log stays as it is. -/
theorem Renumbers.detectDuplicates (log : Log) (threshold : Nat) (normalize : String → String) :
    Renumbers log (log.detectDuplicates threshold normalize).2 := by
  rw [Log.detectDuplicates]
  split
  · exact .of_eq rfl
  · exact .anew (numbered_renumber _)

/-- **Lines that were numbered in order still are.** -/
theorem Numbered.of_renumbers (h : before.Numbered) (hafter : Renumbers before after) :
    after.Numbered := by
  cases hafter with
  | extended added hnumbers =>
    rw [Numbered, length_of_extended hnumbers, hnumbers, h, range'_extended]
  | anew hnumbered => exact hnumbered

/-- **Each number still belongs to one line.** -/
theorem NumberedOnce.of_renumbers (h : before.NumberedOnce) (hafter : Renumbers before after) :
    after.NumberedOnce := by
  cases hafter with
  | extended added hnumbers =>
    rw [NumberedOnce, length_of_extended hnumbers, hnumbers, ← range'_extended]
    exact h.append_right _
  | anew hnumbered => exact hnumbered.once

/-- Lines may be moved with their numbers. -/
theorem NumberedOnce.of_perm (h : before.NumberedOnce) (hafter : after.Perm before) :
    after.NumberedOnce := by
  rw [NumberedOnce, hafter.length_eq]
  exact (hafter.map _).trans h

end Log

namespace SedAction

/-- **A stream edit** leaves the numbers alone or numbers all lines anew. -/
theorem apply_renumbers (action : SedAction) (address : Option Address) (color : Color)
    (log : Log) : Log.Renumbers log (action.apply address color log).2 := by
  cases action with
  | filter kind => exact .of_eq (Log.numbers_filterLines none kind color address log)
  | replace p replacement all => exact .of_eq (Log.numbers_replace p replacement all address log)
  | change text => exact .of_eq (Log.numbers_change address text color log)
  | insert | append | delete => exact .anew (Log.numbered_renumber _)

end SedAction

namespace Directive

/-- **Every directive but `sort`** leaves the numbers alone, numbers lines
at the end on from the length, or numbers all lines anew. -/
theorem perform_renumbers {d : Directive} (h : ∀ fields, d ≠ .sort fields) (world : World)
    (w : Workspace) : Log.Renumbers w.log (d.perform world w).workspace.log := by
  cases d with
  | load pattern =>
    obtain ⟨texts, hlog⟩ := Load.exists_load_eq_appendTexts world.files w.settings pattern w.log
    have hperform : ((load pattern).perform world w).workspace.log = w.log.appendTexts texts := hlog
    rw [hperform]
    exact .appendTexts w.log texts
  | demo races seed => exact .appendTexts w.log _
  | require | exclude | clearFilters | limit | replace | color | dateFormat | query | sleep =>
    exact .of_eq rfl
  | requireToday =>
    rw [perform]
    split <;> exact .of_eq rfl
  | chop => exact .anew (Log.numbered_renumber _)
  | clear => exact .anew rfl
  | truncate characters => exact .of_eq (Log.numbers_truncate characters w.log)
  | addField add known => exact .of_eq (Log.numbers_addField add known w.log)
  | keyValues p => exact .of_eq (Log.numbers_parseFields p w.log)
  | sort fields => exact absurd rfl (h fields)
  | sed address action => exact action.apply_renumbers address w.settings.color w.log
  | filter kind p => exact .of_eq (Log.numbers_filterLines (some p) kind w.settings.color none w.log)
  | hideUnmatched => exact .of_eq (Log.numbers_hideUnmatched w.log)
  | today =>
    rw [perform]
    split
    · exact .of_eq (Log.numbers_filterLines _ .required w.settings.color none w.log)
    · exact .of_eq rfl
  | divideByPattern p => exact .of_eq (Log.numbers_divideByPattern p w.settings.color w.log)
  | divideByField field => exact .of_eq (Log.numbers_divideByField field w.settings.color w.log)
  | filterSections keep p => exact .of_eq (Log.numbers_filterSections p _ w.log)
  | duplicates threshold => exact .detectDuplicates w.log threshold Text.kindOf

end Directive

end LogSift
