import Mathlib.Logic.ExistsUnique
import LogSift.Proofs.Log.Lines
import LogSift.Proofs.Pattern.Spans
/-!
# Sections are filtered as a whole

A log falls into sections in one way (`Sectioned`, `existsUnique_sectioned`):
runs of lines, each but the first opened by the start of a section, with no
other start inside. A filter keeps a section as it is or hides all of it. It
changes neither texts nor starts, so that what it leaves has the same
sections (`Sectioned.map`) and any other filter decides about them as before
(`keeps_filterSection`). That it may be repeated, and that two filters may
change places, is read off this.
-/


namespace LogSift

namespace Log

variable {p q : Pattern} {kind other : FilterKind} {log s : Log} {parts : List Log} {l : Line}

/-! ## The sections of a log -/

/-- **A log cut into its sections.** -/
structure Sectioned (parts : List Log) (log : Log) : Prop where
  /-- The sections in their order are the log. -/
  flatten : parts.flatten = log
  nonempty : ∀ s ∈ parts, s ≠ []
  /-- No section starts within a section. -/
  within : ∀ s ∈ parts, ∀ l ∈ s.tail, l.beginSection = false
  /-- The first section starts where the log does, any other one at a start. -/
  starts : ∀ s ∈ parts.tail, ∀ l, s.head? = some l → l.beginSection = true

theorem sectioned_nil : Sectioned [] [] :=
  ⟨rfl, List.forall_mem_nil _, List.forall_mem_nil _, List.forall_mem_nil _⟩

/-- A start of a section, or the only line, is a section before the others. -/
theorem Sectioned.open (h : Sectioned parts log)
    (hstart : ∀ m, log.head? = some m → m.beginSection = true) :
    Sectioned ([l] :: parts) (l :: log) := by
  refine ⟨congrArg (l :: ·) h.flatten, ?_, ?_, ?_⟩
  · exact List.forall_mem_cons.mpr ⟨List.cons_ne_nil l [], h.nonempty⟩
  · exact List.forall_mem_cons.mpr ⟨List.forall_mem_nil _, h.within⟩
  · intro s hs m hm
    rcases parts with _ | ⟨t, more⟩
    · cases hs
    · rcases List.mem_cons.mp hs with rfl | hs
      · -- the section that the log begins with
        refine hstart m ?_
        rw [← h.flatten, List.flatten_cons, List.head?_append, hm, Option.some_or]
      · exact h.starts s hs m hm

/-- A line before one that starts no section is in the section of that one. -/
theorem Sectioned.extend {next : Line} {rest : Log} {more : List Log}
    (h : Sectioned ((next :: rest) :: more) log) (hnext : next.beginSection = false) :
    Sectioned ((l :: next :: rest) :: more) (l :: log) := by
  obtain ⟨hrest, hmore⟩ := List.forall_mem_cons.mp h.within
  obtain ⟨-, hnonempty⟩ := List.forall_mem_cons.mp h.nonempty
  refine ⟨congrArg (l :: ·) h.flatten, ?_, ?_, h.starts⟩
  · exact List.forall_mem_cons.mpr ⟨List.cons_ne_nil l _, hnonempty⟩
  · exact List.forall_mem_cons.mpr ⟨List.forall_mem_cons.mpr ⟨hnext, hrest⟩, hmore⟩

/-- What is left of a log cut into sections when its first line is taken off. -/
theorem Sectioned.tail {rest : Log} {more : List Log}
    (h : Sectioned ((l :: rest) :: more) (l :: log)) :
    Sectioned (if rest = [] then more else rest :: more) log := by
  obtain ⟨hrest, hwithin⟩ := List.forall_mem_cons.mp h.within
  obtain ⟨-, hnonempty⟩ := List.forall_mem_cons.mp h.nonempty
  have hflatten : rest ++ more.flatten = log := (List.cons.inj h.flatten).2
  split
  · rename_i hnil
    subst hnil
    exact ⟨hflatten, hnonempty, hwithin, fun s hs => h.starts s (List.mem_of_mem_tail hs)⟩
  · rename_i hne
    refine ⟨hflatten, List.forall_mem_cons.mpr ⟨hne, hnonempty⟩, ?_, h.starts⟩
    exact List.forall_mem_cons.mpr ⟨fun m hm => hrest m (List.mem_of_mem_tail hm), hwithin⟩

theorem addLine_of_start {next : Line} {rest : Log} {more : List Log}
    (hnext : next.beginSection = true) :
    addLine l ((next :: rest) :: more) = [l] :: (next :: rest) :: more := by
  rw [addLine, if_pos hnext]

theorem addLine_of_not_start {next : Line} {rest : Log} {more : List Log}
    (hnext : next.beginSection = false) :
    addLine l ((next :: rest) :: more) = (l :: next :: rest) :: more := by
  rw [addLine, if_neg (Bool.eq_false_iff.mp hnext)]

theorem sections_cons (l : Line) (log : Log) : sections (l :: log) = addLine l (sections log) := rfl

/-- **The sections of a log cut it into its sections.** -/
theorem sectioned_sections (log : Log) : Sectioned (sections log) log := by
  induction log with
  | nil => exact sectioned_nil
  | cons l log ih =>
    rw [sections_cons]
    rcases hparts : sections log with _ | ⟨_ | ⟨next, rest⟩, more⟩
    · obtain rfl : [] = log := (hparts ▸ ih).flatten
      exact sectioned_nil.open fun m hm => by cases hm
    · exact absurd rfl ((hparts ▸ ih).nonempty [] (List.mem_cons_self ..))
    · rw [hparts] at ih
      have hhead : log.head? = some next := by rw [← ih.flatten]; rfl
      rcases hnext : next.beginSection with _ | _
      · exact addLine_of_not_start hnext ▸ ih.extend hnext
      · refine addLine_of_start hnext ▸ ih.open fun m hm => ?_
        obtain rfl := Option.some.inj (hhead.symm.trans hm)
        exact hnext

/-- **A log falls into sections in one way only.** -/
theorem Sectioned.eq_sections (h : Sectioned parts log) : parts = sections log := by
  induction log generalizing parts with
  | nil =>
    rcases parts with _ | ⟨s, more⟩
    · rfl
    · exact absurd (List.append_eq_nil_iff.mp h.flatten).1 (h.nonempty s (List.mem_cons_self ..))
  | cons l log ih =>
    rcases parts with _ | ⟨_ | ⟨m, rest⟩, more⟩
    · cases h.flatten
    · exact absurd rfl (h.nonempty [] (List.mem_cons_self ..))
    · obtain rfl : m = l := (List.cons.inj h.flatten).1
      rw [sections_cons, ← ih h.tail]
      rcases rest with _ | ⟨next, rest⟩
      · rw [if_pos rfl]
        rcases more with _ | ⟨_ | ⟨next, rest⟩, more⟩
        · rfl
        · rfl
        · exact (addLine_of_start (h.starts _ (List.mem_cons_self ..) next rfl)).symm
      · rw [if_neg (List.cons_ne_nil next rest)]
        have hnext := h.within _ (List.mem_cons_self ..) next (List.mem_cons_self ..)
        exact (addLine_of_not_start hnext).symm

theorem existsUnique_sectioned (log : Log) : ∃! parts, Sectioned parts log :=
  ⟨sections log, sectioned_sections log, fun _ h => h.eq_sections⟩

/-- What is done to each section by itself and leaves the starts alone leaves the sections
alone. -/
theorem Sectioned.map {f : Log → Log} (h : Sectioned parts log)
    (hf : ∀ s, (f s).map (·.beginSection) = s.map (·.beginSection)) :
    Sectioned (parts.map f) (parts.flatMap f) := by
  have hnil : ∀ s, f s = [] ↔ s = [] := fun s => by
    rw [← List.map_eq_nil_iff, hf, List.map_eq_nil_iff]
  have htail : ∀ s, (f s).tail.map (·.beginSection) = s.tail.map (·.beginSection) := fun s => by
    rw [List.map_tail, hf, ← List.map_tail]
  refine ⟨(List.flatMap_def ..).symm, ?_, ?_, ?_⟩
  · intro t ht
    obtain ⟨s, hs, rfl⟩ := List.mem_map.mp ht
    exact mt (hnil s).mp (h.nonempty s hs)
  · intro t ht l hl
    obtain ⟨s, hs, rfl⟩ := List.mem_map.mp ht
    have hmem := List.mem_map_of_mem (f := (·.beginSection)) hl
    rw [htail] at hmem
    obtain ⟨m, hm, hbegin⟩ := List.mem_map.mp hmem
    exact hbegin ▸ h.within s hs m hm
  · intro t ht l hl
    rw [← List.map_tail] at ht
    obtain ⟨s, hs, rfl⟩ := List.mem_map.mp ht
    have hhead : s.head?.map (·.beginSection) = some l.beginSection := by
      rw [← List.head?_map, ← hf, List.head?_map, hl, Option.map_some]
    obtain ⟨m, hm, hbegin⟩ := Option.map_eq_some_iff.mp hhead
    exact hbegin ▸ h.starts s hs m hm

/-! ## One filter -/

/-- **Which sections a filter keeps**: to remove is to keep those without a
match, and any other kind keeps those with one. -/
def Keeps (p : Pattern) (kind : FilterKind) (s : Log) : Prop :=
  if kind = .remove then ∀ l ∈ s, p.hasMatch l.text.toList = false
  else ∃ l ∈ s, p.hasMatch l.text.toList = true

theorem keepsSection_eq_true_iff : keepsSection p kind s = true ↔ Keeps p kind s := by
  unfold keepsSection Keeps
  cases kind <;> simp

instance (p : Pattern) (kind : FilterKind) : DecidablePred (Keeps p kind) := fun _ =>
  decidable_of_iff _ keepsSection_eq_true_iff

/-- All lines of a section, hidden. -/
def hide (s : Log) : Log := s.map fun l => { l with visible := false }

theorem hide_hide (s : Log) : hide (hide s) = hide s := by
  simp [hide]

theorem keeps_hide : Keeps p kind (hide s) ↔ Keeps p kind s := by
  unfold Keeps hide
  split
  · simp
  · constructor
    · rintro ⟨_, hl, hmatch⟩
      obtain ⟨m, hm, rfl⟩ := List.mem_map.mp hl
      exact ⟨m, hm, hmatch⟩
    · rintro ⟨m, hm, hmatch⟩
      exact ⟨_, List.mem_map_of_mem hm, hmatch⟩

theorem filterSection_of_keeps (h : Keeps p kind s) : filterSection p kind s = s :=
  if_pos (keepsSection_eq_true_iff.mpr h)

theorem filterSection_of_not_keeps (h : ¬ Keeps p kind s) : filterSection p kind s = hide s :=
  if_neg (mt keepsSection_eq_true_iff.mp h)

theorem beginSections_filterSection (p : Pattern) (kind : FilterKind) (s : Log) :
    (filterSection p kind s).map (·.beginSection) = s.map (·.beginSection) := by
  by_cases h : Keeps p kind s
  · rw [filterSection_of_keeps h]
  · rw [filterSection_of_not_keeps h]
    simp [hide]

/-- A filter does not change what any other one decides. -/
theorem keeps_filterSection (q : Pattern) (other : FilterKind) (p : Pattern) (kind : FilterKind)
    (s : Log) : Keeps q other (filterSection p kind s) ↔ Keeps q other s := by
  by_cases h : Keeps p kind s
  · rw [filterSection_of_keeps h]
  · rw [filterSection_of_not_keeps h]
    exact keeps_hide

theorem filterSection_idem (p : Pattern) (kind : FilterKind) (s : Log) :
    filterSection p kind (filterSection p kind s) = filterSection p kind s := by
  by_cases h : Keeps p kind s
  · rw [filterSection_of_keeps h, filterSection_of_keeps h]
  · rw [filterSection_of_not_keeps h, filterSection_of_not_keeps (mt keeps_hide.mp h), hide_hide]

theorem filterSection_comm (p q : Pattern) (kind other : FilterKind) (s : Log) :
    filterSection q other (filterSection p kind s) =
      filterSection p kind (filterSection q other s) := by
  have hkeep := keeps_filterSection q other p kind s
  have hkeep' := keeps_filterSection p kind q other s
  by_cases h : Keeps p kind s
  · rw [filterSection_of_keeps h, filterSection_of_keeps (hkeep'.mpr h)]
  · by_cases h' : Keeps q other s
    · rw [filterSection_of_keeps (hkeep.mpr h'), filterSection_of_keeps h']
    · rw [filterSection_of_not_keeps (mt hkeep.mp h'), filterSection_of_not_keeps h,
        filterSection_of_not_keeps (mt hkeep'.mp h), filterSection_of_not_keeps h']

/-! ## Filters of a log -/

/-- The sections that are kept and whose first line is shown, and the sections that are not
kept. -/
def keptAndHidden (p : Pattern) (kind : FilterKind) (parts : List Log) : Nat × Nat :=
  (parts.countP fun s => Keeps p kind s ∧ s.head?.any (·.visible) = true,
    parts.countP fun s => ¬ Keeps p kind s)

theorem Sectioned.filterSections (h : Sectioned parts log) (p : Pattern) (kind : FilterKind) :
    log.filterSections p kind =
      (keptAndHidden p kind parts, parts.flatMap (filterSection p kind)) := by
  have hkept : ∀ s, (keepsSection p kind s && s.head?.any (·.visible)) =
      decide (Keeps p kind s ∧ s.head?.any (·.visible) = true) := fun s => by
    rw [Bool.eq_iff_iff, Bool.and_eq_true, keepsSection_eq_true_iff, decide_eq_true_iff]
  have hhidden : ∀ s, (!keepsSection p kind s) = decide (¬ Keeps p kind s) := fun s => by
    rw [Bool.eq_iff_iff, Bool.not_eq_true', ← Bool.not_eq_true, keepsSection_eq_true_iff,
      decide_eq_true_iff]
  rw [Log.filterSections, ← h.eq_sections]
  simp only [hkept, hhidden]
  rfl

/-- What a filter leaves has the sections that there were, each filtered. -/
theorem Sectioned.filtered (h : Sectioned parts log) (p : Pattern) (kind : FilterKind) :
    Sectioned (parts.map (filterSection p kind)) (log.filterSections p kind).2 :=
  h.filterSections p kind ▸ h.map (beginSections_filterSection p kind)

/-- Where the first line of a section that is kept is shown, it still is. -/
theorem keptAndHidden_filtered (p : Pattern) (kind : FilterKind) (parts : List Log) :
    keptAndHidden p kind (parts.map (filterSection p kind)) = keptAndHidden p kind parts := by
  unfold keptAndHidden
  simp only [List.countP_map, Function.comp_def, keeps_filterSection]
  congr 1
  refine List.countP_congr fun s _ => ?_
  simp only [decide_eq_true_iff]
  exact and_congr_right fun hs => by rw [filterSection_of_keeps hs]

theorem filterSections_idem (p : Pattern) (kind : FilterKind) (log : Log) :
    (log.filterSections p kind).2.filterSections p kind = log.filterSections p kind := by
  have h := sectioned_sections log
  rw [(h.filtered p kind).filterSections p kind, h.filterSections p kind, keptAndHidden_filtered,
    List.flatMap_map]
  simp only [filterSection_idem]

theorem filterSections_comm (p q : Pattern) (kind other : FilterKind) (log : Log) :
    ((log.filterSections p kind).2.filterSections q other).2 =
      ((log.filterSections q other).2.filterSections p kind).2 := by
  have h := sectioned_sections log
  rw [(h.filtered p kind).filterSections q other, (h.filtered q other).filterSections p kind,
    List.flatMap_map, List.flatMap_map]
  simp only [filterSection_comm p q]

/-- **Sections are filtered as a whole**, as often and in whatever order it is
done. A log falls into sections in one way; a filter keeps each as it is or
hides every line of it and nothing more, and counts those that it keeps whose
first line is shown, and those that it hides. -/
theorem filterSections_whole (p q : Pattern) (kind other : FilterKind) (log : Log) :
    (∃! parts, Sectioned parts log) ∧
    (∀ parts, Sectioned parts log → log.filterSections p kind =
      ((parts.countP fun s => Keeps p kind s ∧ s.head?.any (·.visible) = true,
        parts.countP fun s => ¬ Keeps p kind s),
        parts.flatMap fun s =>
          if Keeps p kind s then s else s.map fun l => { l with visible := false })) ∧
    (log.filterSections p kind).2.filterSections p kind = log.filterSections p kind ∧
    ((log.filterSections p kind).2.filterSections q other).2 =
      ((log.filterSections q other).2.filterSections p kind).2 := by
  refine ⟨existsUnique_sectioned log, ?_, filterSections_idem p kind log,
    filterSections_comm p q kind other log⟩
  intro parts h
  rw [h.filterSections p kind]
  refine congrArg (Prod.mk _) (congrArg (parts.flatMap ·) (funext fun s => ?_))
  split
  · rename_i hs
    exact filterSection_of_keeps hs
  · rename_i hs
    exact filterSection_of_not_keeps hs

/-- A line before the first start is a section of its own. -/
theorem filterSections_whole_of_leading :
    let start (l : Line) : Line := { l with beginSection := true }
    let first : Log := [Line.ofText "b" 1]
    let second : Log := [start (Line.ofText "b" 2), Line.ofText "a" 3]
    let third : Log := [start (Line.ofText "b" 4)]
    let log : Log := first ++ second ++ third
    Sectioned [first, second, third] log ∧ ∃ p, Pattern.ofSource "a" = .ok p ∧
      log.filterSections p .required = ((1, 2), hide first ++ second ++ hide third) := by
  intro start first second third log
  have hfound : (Pattern.ofSource "a").toOption.map (fun p => (p.hasMatch ['a'], p.hasMatch ['b'])) =
      some (true, false) := by decide +kernel
  obtain ⟨p, hp, hmatch⟩ := Pattern.exists_ofSource hfound
  obtain ⟨ha, hb⟩ := Prod.mk.inj hmatch
  have hparts : Sectioned [first, second, third] log :=
    ⟨rfl, by decide, by decide, by simp [second, third, start]⟩
  have hsections := (filterSections_whole p p .required .required log).2.1 _ hparts
  refine ⟨hparts, p, hp, hsections.trans ?_⟩
  simp [Keeps, first, second, third, start, hide, Line.ofText, ha, hb]

end Log

end LogSift
