import Mathlib.Data.List.SplitBy
import LogSift.Proofs.Line.Frame
import LogSift.Proofs.Log.Sections
/-!
# Sections by a field are homogeneous

A log is divided by a field from line to line: a line starts a section where
its value is not that of the line before (`divideFrom`). So two lines in a
row differ in the field only across a start (`isChain_divideFrom`), and a
section has one value throughout. Where there was no start before, there is
one at every change and nowhere else, and the sections are the maximal runs
of one value.
-/


namespace LogSift

namespace Log

variable {field : String} {color : Color} {log s : Log} {parts : List Log} {a l : Line}

/-! ## Line by line -/

/-- The line, as the start of a section if its field has another value than that given. -/
def divideLine (field : String) (color : Color) (before : Option String) (l : Line) : Line :=
  if l.field? field = before then l else l.startSection color

/-- Lines divided by a field, with the value before the first line. -/
def divideFrom (field : String) (color : Color) (before : Option String) : Log → Log
  | [] => []
  | l :: log =>
    divideLine field color before l :: divideFrom field color (l.field? field) log

theorem field?_startSection (l : Line) (color : Color) :
    (l.startSection color).field? field = l.field? field := by
  obtain ⟨highlights, hstart⟩ := l.startSection_frame color
  rw [hstart]
  rfl

theorem beginSection_startSection (l : Line) (color : Color) :
    (l.startSection color).beginSection = true := by
  obtain ⟨highlights, hstart⟩ := l.startSection_frame color
  rw [hstart]

theorem field?_divideLine (before : Option String) (l : Line) :
    (divideLine field color before l).field? field = l.field? field := by
  unfold divideLine
  split
  · rfl
  · exact field?_startSection l color

theorem beginSection_divideLine (before : Option String) (l : Line) :
    (divideLine field color before l).beginSection =
      (l.beginSection || decide (l.field? field ≠ before)) := by
  unfold divideLine
  by_cases h : l.field? field = before
  · simp [h]
  · simp [h, beginSection_startSection]

theorem divideByField_eq (field : String) (color : Color) (log : Log) :
    log.divideByField field color =
      ((fieldChanges field log).count true, divideFrom field color none log) := by
  have hzip : ∀ (log : Log) (before : Option String),
      List.zipWith (fun changed l => if changed then l.startSection color else l)
        (List.zipWith (· != ·) (before :: log.map (·.field? field)) (log.map (·.field? field)))
        log = divideFrom field color before log := by
    intro log
    induction log with
    | nil => exact fun _ => rfl
    | cons l log ih =>
      intro before
      simp only [List.map_cons, List.zipWith_cons_cons, divideFrom]
      rw [ih (l.field? field)]
      congr 1
      unfold divideLine
      by_cases h : l.field? field = before
      · simp [h]
      · simp [h, Ne.symm h]
  exact congrArg (Prod.mk _) (hzip log none)

/-- Dividing leaves the values of the field as they are. -/
theorem map_field?_divideFrom (before : Option String) (log : Log) :
    (divideFrom field color before log).map (·.field? field) = log.map (·.field? field) := by
  induction log generalizing before with
  | nil => rfl
  | cons l log ih =>
    rw [divideFrom, List.map_cons, List.map_cons, ih, field?_divideLine]

/-- **A start of a section stays one.** -/
theorem beginSection_divideFrom {before : Option String} {i : Nat} {l' : Line}
    (hl : log[i]? = some l) (hl' : (divideFrom field color before log)[i]? = some l')
    (hbegin : l.beginSection = true) : l'.beginSection = true := by
  induction log generalizing before i with
  | nil => cases hl
  | cons m log ih =>
    cases i with
    | zero =>
      obtain rfl := Option.some.inj hl
      obtain rfl := Option.some.inj hl'
      rw [beginSection_divideLine, hbegin, Bool.true_or]
    | succ i => exact ih hl hl'

/-- What holds of a line and the next one as it is divided holds of all lines in a row. -/
theorem isChain_divideFrom {R : Line → Line → Prop}
    (hR : ∀ a, ∀ l ∈ log, R a (divideLine field color (a.field? field) l)) :
    (a :: divideFrom field color (a.field? field) log).IsChain R := by
  induction log generalizing a with
  | nil => exact List.isChain_singleton a
  | cons l log ih =>
    obtain ⟨hl, hlog⟩ := List.forall_mem_cons.mp (fun m hm b => hR b m hm)
    have htail := ih (a := divideLine field color (a.field? field) l) fun b m hm => hlog m hm b
    rw [field?_divideLine] at htail
    exact List.isChain_cons_cons.mpr ⟨hl a, htail⟩

/-- The same of a log that is divided. -/
theorem isChain_divideByField {R : Line → Line → Prop}
    (hR : ∀ a, ∀ l ∈ log, R a (divideLine field color (a.field? field) l)) :
    (log.divideByField field color).2.IsChain R := by
  -- as if a line without fields stood before the log
  have hchain := isChain_divideFrom (a := Line.ofText "" 0) hR
  rw [divideByField_eq]
  exact hchain.of_cons

/-! ## Sections of one value -/

/-- Two lines in a row have the same value, unless a section starts at the second. -/
theorem isChain_eq_or_start (field : String) (color : Color) (log : Log) :
    (log.divideByField field color).2.IsChain
      fun a b => b.beginSection = false → b.field? field = a.field? field := by
  refine isChain_divideByField fun a l _ hbegin => ?_
  rw [beginSection_divideLine, Bool.or_eq_false_iff] at hbegin
  rw [field?_divideLine]
  simpa using hbegin.2

theorem field?_eq_of_isChain
    (hchain : (a :: s).IsChain fun a b => b.beginSection = false → b.field? field = a.field? field)
    (hwithin : ∀ l ∈ s, l.beginSection = false) : ∀ l ∈ s, l.field? field = a.field? field := by
  induction s generalizing a with
  | nil => exact List.forall_mem_nil _
  | cons b s ih =>
    obtain ⟨hb, hs⟩ := List.forall_mem_cons.mp hwithin
    obtain ⟨hab, hchain⟩ := List.isChain_cons_cons.mp hchain
    have heq := hab hb
    exact List.forall_mem_cons.mpr ⟨heq, fun l hl => (ih hchain hs l hl).trans heq⟩

theorem Sectioned.nil_notMem (h : Sectioned parts log) : [] ∉ parts := fun hnil =>
  h.nonempty [] hnil rfl

/-- **Every section has one value of the field**, or it is missing throughout. -/
theorem Sectioned.homogeneous (h : Sectioned parts (log.divideByField field color).2)
    (hs : s ∈ parts) : ∃ value, ∀ l ∈ s, l.field? field = value := by
  have hchain := isChain_eq_or_start field color log
  rw [← h.flatten, List.isChain_flatten h.nil_notMem] at hchain
  rcases s with _ | ⟨a, rest⟩
  · exact absurd hs h.nil_notMem
  · exact ⟨a.field? field, List.forall_mem_cons.mpr
      ⟨rfl, field?_eq_of_isChain (hchain.1 _ hs) (h.within _ hs)⟩⟩

/-! ## Sections where there were none -/

/-- Without starts before, a section starts just where the value changes. -/
theorem isChain_start_iff_ne (hnone : ∀ l ∈ log, l.beginSection = false) :
    (log.divideByField field color).2.IsChain
      fun a b => b.beginSection = true ↔ b.field? field ≠ a.field? field := by
  refine isChain_divideByField fun a l hl => ?_
  rw [beginSection_divideLine, field?_divideLine, hnone l hl]
  simp

/-- **Without starts before, the sections are the maximal runs** of one value. -/
theorem Sectioned.eq_splitBy (h : Sectioned parts (log.divideByField field color).2)
    (hnone : ∀ l ∈ log, l.beginSection = false) :
    parts = (log.divideByField field color).2.splitBy
      fun a b => a.field? field == b.field? field := by
  have hchain := @isChain_start_iff_ne field color log hnone
  rw [← h.flatten, List.isChain_flatten h.nil_notMem] at hchain
  obtain ⟨hwithin, hbetween⟩ := hchain
  refine (List.splitBy_eq_iff.mpr ⟨h.flatten.symm, h.nil_notMem, ?_, ?_⟩).symm
  · intro s hs
    obtain ⟨value, hvalue⟩ := h.homogeneous hs
    refine (List.pairwise_of_forall_mem_list fun a ha b hb => ?_).isChain
    rw [hvalue a ha, hvalue b hb]
    exact beq_self_eq_true value
  · -- a section that is not the first begins with a start, and so with a change
    rw [List.isChain_iff_getElem] at hbetween ⊢
    intro i hi
    have hleft : parts[i] ≠ [] := h.nonempty _ (List.getElem_mem _)
    have hright : parts[i + 1] ≠ [] := h.nonempty _ (List.getElem_mem _)
    have htail : parts[i + 1] ∈ parts.tail := by
      rw [← List.getElem_tail (by rw [List.length_tail]; omega)]
      exact List.getElem_mem _
    have hstart := h.starts _ htail _ (List.head?_eq_some_head hright)
    have hchange := (hbetween i hi _ (List.getLast?_eq_some_getLast hleft) _
      (List.head?_eq_some_head hright)).mp hstart
    exact ⟨hleft, hright, beq_eq_false_iff_ne.mpr hchange.symm⟩

/-- Without starts before, as many starts are found as there are changes. -/
theorem countP_divideFrom (hnone : ∀ l ∈ log, l.beginSection = false) (before : Option String) :
    (divideFrom field color before log).countP (·.beginSection) =
      (List.zipWith (· != ·) (before :: log.map (·.field? field))
        (log.map (·.field? field))).count true := by
  induction log generalizing before with
  | nil => rfl
  | cons l log ih =>
    obtain ⟨hl, hlog⟩ := List.forall_mem_cons.mp hnone
    have hmark : (divideLine field color before l).beginSection =
        (before != l.field? field) := by
      rw [beginSection_divideLine, hl, Bool.false_or]
      by_cases h : l.field? field = before
      · simp [h]
      · simp [h, Ne.symm h]
    simp only [divideFrom, List.map_cons, List.zipWith_cons_cons, List.countP_cons,
      List.count_cons, ih hlog, hmark, beq_true]

theorem divideByField_fst (hnone : ∀ l ∈ log, l.beginSection = false) :
    (log.divideByField field color).1 =
      (log.divideByField field color).2.countP (·.beginSection) := by
  rw [divideByField_eq]
  exact (countP_divideFrom hnone none).symm

/-! ## The number of sections -/

theorem exists_sections_cons (l : Line) (log : Log) :
    ∃ rest more, sections (l :: log) = (l :: rest) :: more := by
  rw [sections_cons]
  rcases sections log with _ | ⟨_ | ⟨next, rest⟩, more⟩
  · exact ⟨_, _, rfl⟩
  · exact ⟨_, _, rfl⟩
  · rw [addLine]
    split
    · exact ⟨_, _, rfl⟩
    · exact ⟨_, _, rfl⟩

/-- A log has a section for its first line and for every start after that. -/
theorem length_sections_cons (l : Line) (log : Log) :
    (sections (l :: log)).length = log.countP (·.beginSection) + 1 := by
  induction log generalizing l with
  | nil => rfl
  | cons m log ih =>
    obtain ⟨rest, more, hparts⟩ := exists_sections_cons m log
    have hlength := ih m
    rw [hparts, List.length_cons] at hlength
    rw [sections_cons, hparts, List.countP_cons]
    rcases hm : m.beginSection with _ | _
    · rw [addLine_of_not_start hm]
      simpa using hlength
    · rw [addLine_of_start hm]
      simpa using hlength

/-- Without starts before, there is a section for each start, and one more if the field is missing
on the first line. -/
theorem Sectioned.length_eq (h : Sectioned parts (log.divideByField field color).2)
    (hnone : ∀ l ∈ log, l.beginSection = false) :
    parts.length = (log.divideByField field color).1 +
      if log.head?.any (!·.hasField field) then 1 else 0 := by
  rw [h.eq_sections, divideByField_fst hnone, divideByField_eq]
  rcases log with _ | ⟨l, log⟩
  · rfl
  · have hl := hnone l (List.mem_cons_self ..)
    have hfield : l.hasField field = (l.field? field).isSome := rfl
    rw [divideFrom, length_sections_cons, List.countP_cons, beginSection_divideLine, hl,
      List.head?_cons, Option.any_some, hfield]
    cases l.field? field <;> simp

/-- **Sections by a field are homogeneous**, and starts of sections stay
starts. Without starts before, the sections are the maximal runs of one
value, the count is that of the starts, and there is one section more than
starts just if there is a first line and it lacks the field. -/
theorem divideByField_sections (field : String) (color : Color) (log : Log) :
    let divided := log.divideByField field color
    (∃! parts, Sectioned parts divided.2) ∧
    (∀ parts, Sectioned parts divided.2 →
      ∀ s ∈ parts, ∃ value, ∀ l ∈ s, l.field? field = value) ∧
    divided.2.map (·.field? field) = log.map (·.field? field) ∧
    (∀ (i : Nat) (l l' : Line), log[i]? = some l → divided.2[i]? = some l' →
      l.beginSection = true → l'.beginSection = true) ∧
    ((∀ l ∈ log, l.beginSection = false) → ∀ parts, Sectioned parts divided.2 →
      parts = divided.2.splitBy (fun a b => a.field? field == b.field? field) ∧
      divided.1 = divided.2.countP (·.beginSection) ∧
      (parts.length = divided.1 + 1 ↔ ∃ l, log.head? = some l ∧ l.hasField field = false) ∧
      (parts.length = divided.1 ∨ parts.length = divided.1 + 1)) := by
  intro divided
  have hdivided : divided.2 = divideFrom field color none log :=
    congrArg Prod.snd (divideByField_eq field color log)
  refine ⟨existsUnique_sectioned _, fun parts h s hs => h.homogeneous hs, ?_, ?_, ?_⟩
  · rw [hdivided]
    exact map_field?_divideFrom none log
  · intro i l l' hl hl' hbegin
    rw [hdivided] at hl'
    exact beginSection_divideFrom hl hl' hbegin
  · intro hnone parts h
    have hlength : parts.length = divided.1 + if log.head?.any (!·.hasField field) then 1 else 0 :=
      h.length_eq hnone
    have hfirst : log.head?.any (!·.hasField field) = true ↔
        ∃ l, log.head? = some l ∧ l.hasField field = false := by
      simp [Option.any_eq_true]
    refine ⟨h.eq_splitBy hnone, divideByField_fst hnone, ?_, ?_⟩
    · rw [hlength, ← hfirst]
      split <;> simp_all
    · rw [hlength]
      split <;> simp

/-- The field is missing on the first line and on the last. -/
theorem divideByField_sections_of_missing :
    let line (value : Option String) : Line :=
      { Line.ofText "a" 1 with fields := ⟨value.toList.map ("k", ·)⟩ }
    let log : Log := [line none, line (some "1"), line (some "1"), line none]
    let divided := log.divideByField "k" Color.initial
    (∀ l ∈ log, l.beginSection = false) ∧ divided.1 = 2 ∧
      ∃ parts, Sectioned parts divided.2 ∧ parts.map List.length = [1, 2, 1] ∧
        parts.length = divided.1 + 1 := by
  intro line log divided
  have hnone : ∀ l ∈ log, l.beginSection = false := by decide
  have hparts : Sectioned (sections divided.2) divided.2 := sectioned_sections divided.2
  obtain ⟨-, -, -, -, hsections⟩ := divideByField_sections "k" Color.initial log
  obtain ⟨-, -, hlength, -⟩ := hsections hnone _ hparts
  exact ⟨hnone, by decide, _, hparts, by decide, hlength.mpr ⟨line none, rfl, by decide⟩⟩

end Log

end LogSift
