import LogSift.Proofs.Line.Highlights
import LogSift.Proofs.Log.Lines
import LogSift.Script.Perform
/-!
# Highlights over a log

Every directive keeps the lines of a log aligned (`Aligned.perform`).
Lines that are loaded, generated or put at the top have no highlights, and
a line is highlighted by its own matches or as a whole. What moves lines
or numbers them does not touch their texts.
-/


namespace LogSift

namespace Log

variable {log : Log}

/-- **All lines are aligned.** -/
def Aligned (log : Log) : Prop := ∀ l ∈ log, l.Aligned

/-- Numbers are not about the text. -/
theorem Aligned.renumber (h : log.Aligned) : log.renumber.Aligned :=
  forall_mem_renumber (fun _ _ hl => hl.congr rfl rfl) h

/-- Texts come without highlights. -/
theorem Aligned.appendTexts (h : log.Aligned) (texts : List String) :
    (log.appendTexts texts).Aligned :=
  forall_mem_appendTexts (fun _ _ => Line.aligned_of_highlights_nil rfl) h

theorem Aligned.loadFiles (h : log.Aligned) (f : Files) (s : Settings) (places : List Glob.Place) :
    (Load.loadFiles f s places log).2.1.Aligned := by
  induction places generalizing log with
  | nil => exact h
  | cons p rest ih =>
    rw [Load.loadFiles]
    split
    · exact h
    · exact ih (h.appendTexts _)

theorem Aligned.load (h : log.Aligned) (f : Files) (s : Settings) (pattern : String) :
    (Load.load f s pattern log).2.1.Aligned := by
  rw [Load.load]
  split
  · exact h
  · exact h.loadFiles f s _

theorem Aligned.chop (h : log.Aligned) : log.chop.2.Aligned :=
  Aligned.renumber fun l hl => h l (List.mem_filter.mp hl).1

theorem Aligned.truncate (h : log.Aligned) (limit : Nat) : (log.truncate limit).2.Aligned :=
  forall_mem_update_ite (fun _ hl => hl.truncate limit) h

/-! ## Fields -/

theorem Aligned.parseFields (h : log.Aligned) (p : Pattern) : (log.parseFields p).2.Aligned :=
  forall_mem_parseFields (fun _ _ hl => hl.congr rfl rfl) h p

theorem Aligned.addField (h : log.Aligned) (add known : String) :
    (log.addField add known).2.Aligned :=
  forall_mem_addField (fun _ _ hl => hl.congr rfl rfl) h add known

theorem Aligned.sortByFields (h : log.Aligned) (fields : List String) :
    (log.sortByFields fields).Aligned :=
  fun l hl => h l (List.mem_mergeSort.mp hl)

/-! ## Filters and sections -/

theorem Aligned.filterLines (h : log.Aligned) (pattern : Option Pattern) (kind : FilterKind)
    (color : Color) (address : Option Address) :
    (log.filterLines pattern kind color address).2.Aligned := by
  intro l hl
  obtain ⟨m, hm, rfl⟩ := List.mem_map.mp hl
  exact (h m hm).filtered _ kind color address

theorem Aligned.hideUnmatched (h : log.Aligned) : log.hideUnmatched.2.Aligned :=
  forall_mem_update_ite (fun _ hl => hl.congr rfl rfl) h

theorem Aligned.divideByPattern (h : log.Aligned) (p : Pattern) (color : Color) :
    (log.divideByPattern p color).2.Aligned :=
  forall_mem_update_ite (fun _ hl => hl.startSection color) h

theorem Aligned.divideByField (h : log.Aligned) (field : String) (color : Color) :
    (log.divideByField field color).2.Aligned := by
  refine forall_mem_zipWith (fun changed l hl => ?_) (fieldChanges field log) h
  split
  · exact hl.startSection color
  · exact hl

theorem Aligned.filterSections (h : log.Aligned) (p : Pattern) (kind : FilterKind) :
    (log.filterSections p kind).2.Aligned :=
  forall_mem_filterSections (fun _ hl => hl.congr rfl rfl) h p kind

theorem Aligned.detectDuplicates (h : log.Aligned) (threshold : Nat)
    (normalize : String → String) : (log.detectDuplicates threshold normalize).2.Aligned :=
  forall_mem_detectDuplicates (fun _ _ hl => hl.congr rfl rfl)
    (fun _ _ => Line.aligned_of_highlights_nil rfl) h threshold normalize

/-! ## Edits -/

theorem newLine_aligned (text : String) (color : Color) : (newLine text color).Aligned :=
  (Line.aligned_of_highlights_nil rfl).highlightAll color

/-- Lines may be put in next to others. -/
theorem Aligned.insert (h : log.Aligned) (text : String) (color : Color) {f : Line → Log}
    (hf : ∀ l, ∀ m ∈ f l, m = l ∨ m = newLine text color) :
    (Log.renumber (log.flatMap f)).Aligned := by
  refine Aligned.renumber (forall_mem_flatMap (fun l hl m hm => ?_) h)
  rcases hf l m hm with rfl | rfl
  · exact hl
  · exact newLine_aligned text color

/-- **A stream edit keeps the lines aligned**, whatever it does. -/
theorem Aligned.apply (h : log.Aligned) (action : SedAction) (address : Option Address)
    (color : Color) : (action.apply address color log).2.Aligned := by
  cases action with
  | filter kind => exact h.filterLines none kind color address
  | replace pattern replacement all =>
    refine forall_mem_update (fun l l' hl hop => ?_) h
    split at hop
    · exact hl.replace hop
    · cases hop
  | change text => exact forall_mem_update_ite (fun l _ => l.setText_aligned text color) h
  | insert text =>
    refine h.insert text color fun l m hm => ?_
    split at hm
    · rcases List.mem_cons.mp hm with rfl | hm
      · exact Or.inr rfl
      · exact Or.inl (List.mem_singleton.mp hm)
    · exact Or.inl (List.mem_singleton.mp hm)
  | append text =>
    refine h.insert text color fun l m hm => ?_
    split at hm
    · rcases List.mem_cons.mp hm with rfl | hm
      · exact Or.inl rfl
      · exact Or.inr (List.mem_singleton.mp hm)
    · exact Or.inl (List.mem_singleton.mp hm)
  | delete => exact Aligned.renumber fun l hl => h l (List.mem_filter.mp hl).1

end Log

end LogSift
