import LogSift.Log.Edit
import LogSift.Log.Field
import LogSift.Proofs.Line.Frame
/-!
# Lines that go on

A directive changes a line in some of its parts, and the line goes on: it
agrees with what it was in all other parts, the start of a section stays
one, and no name of a field is lost (`Continues`). Each operation on a line
is one that the line goes on after, with the parts that it may change.
-/


namespace LogSift

namespace Keyed

variable {α : Type} {k : Keyed α}

/-- A value that is put in adds its name to those that are there. -/
theorem mem_names_insert {n name : String} {value : α} :
    n ∈ (k.insert name value).names ↔ n = name ∨ n ∈ k.names := by
  obtain ⟨entries⟩ := k
  simp only [insert, names]
  induction entries with
  | nil => simp [insertEntry]
  | cons e rest ih =>
    obtain ⟨m, v⟩ := e
    rw [insertEntry]
    -- the value takes the place of one under its name, goes before a later name, or further on
    by_cases hsame : name = m
    · subst hsame
      simp
    · by_cases hless : name < m
      · simp [hsame, hless]
      · rw [if_neg hsame, if_neg hless, List.map_cons, List.mem_cons, ih, List.map_cons,
          List.mem_cons]
        exact or_left_comm

theorem names_subset_insertAll (k : Keyed α) (pairs : List (String × α)) :
    k.names ⊆ (k.insertAll pairs).names := by
  induction pairs generalizing k with
  | nil => exact List.Subset.refl _
  | cons p pairs ih =>
    exact fun n hn => ih (k.insert p.1 p.2) (mem_names_insert.mpr (Or.inr hn))

end Keyed

namespace Line

/-- The parts of a line. -/
inductive Part
  | text
  | number
  | visible
  | matched
  | fields
  | beginSection
  | highlights
deriving DecidableEq, Repr

/-- The lines agree in a part. -/
def Part.Same (l l' : Line) : Part → Prop
  | text => l'.text = l.text
  | number => l'.number = l.number
  | visible => l'.visible = l.visible
  | matched => l'.matched = l.matched
  | fields => l'.fields = l.fields
  | beginSection => l'.beginSection = l.beginSection
  | highlights => l'.highlights = l.highlights

/-- **A line goes on** after a change of some of its parts. -/
structure Continues (parts : List Part) (l l' : Line) : Prop where
  /-- In all other parts it is as it was. -/
  same : ∀ part, part ∉ parts → part.Same l l'
  /-- The start of a section stays one. -/
  starts : l.beginSection = true → l'.beginSection = true
  /-- No name of a field is lost. -/
  names : l.fields.names ⊆ l'.fields.names

variable {parts more : List Part} {l l' l'' : Line}

theorem Part.Same.trans {part : Part} (h : part.Same l l') (h' : part.Same l' l'') :
    part.Same l l'' := by
  cases part <;> exact Eq.trans h' h

/-- A line goes on as it is. -/
theorem Continues.refl (parts : List Part) (l : Line) : l.Continues parts l where
  same part _ := by cases part <;> rfl
  starts := id
  names := List.Subset.refl _

/-- **One change after another** changes the parts of both. -/
theorem Continues.trans (h : l.Continues parts l') (h' : l'.Continues more l'') :
    l.Continues (parts ++ more) l'' where
  same part hpart := by
    rw [List.mem_append, not_or] at hpart
    exact (h.same part hpart.1).trans (h'.same part hpart.2)
  starts := h'.starts ∘ h.starts
  names := List.Subset.trans h.names h'.names

theorem Continues.mono (h : l.Continues parts l') (hparts : parts ⊆ more) :
    l.Continues more l' where
  same part hpart := h.same part fun hmem => hpart (hparts hmem)
  starts := h.starts
  names := h.names

/-! ## Operations -/

theorem continues_number (l : Line) (number : Nat) :
    l.Continues [.number] { l with number } where
  same part hpart := by cases part <;> simp_all [Part.Same]
  starts := id
  names := List.Subset.refl _

theorem continues_visible (l : Line) (visible : Bool) :
    l.Continues [.visible] { l with visible } where
  same part hpart := by cases part <;> simp_all [Part.Same]
  starts := id
  names := List.Subset.refl _

theorem continues_text (l : Line) (text : String) (highlights : List Highlight) :
    l.Continues [.text, .highlights] { l with text, highlights } where
  same part hpart := by cases part <;> simp_all [Part.Same]
  starts := id
  names := List.Subset.refl _

theorem continues_truncate (l : Line) (limit : Nat) :
    l.Continues [.text, .highlights] (l.truncate limit) := by
  obtain ⟨text, highlights, hl⟩ := l.truncate_frame limit
  exact hl ▸ l.continues_text text highlights

theorem continues_replace? {p : Pattern} {replacement : String} {all : Bool}
    (h : l.replace? p replacement all = some l') : l.Continues [.text, .highlights] l' := by
  obtain ⟨text, highlights, rfl⟩ := replace?_frame h
  exact l.continues_text text highlights

theorem continues_setText (l : Line) (text : String) (color : Color) :
    l.Continues [.text, .highlights] (l.setText text color) := by
  obtain ⟨highlights, hl⟩ := l.setText_frame text color
  exact hl ▸ l.continues_text text highlights

theorem continues_startSection (l : Line) (color : Color) :
    l.Continues [.beginSection, .highlights] (l.startSection color) := by
  obtain ⟨highlights, hl⟩ := l.startSection_frame color
  rw [hl]
  exact ⟨fun part hpart => by cases part <;> simp_all [Part.Same], fun _ => rfl,
    List.Subset.refl _⟩

/-- Fields are kept besides those that are there. -/
theorem continues_fields (l : Line) {fields : Keyed String}
    (h : l.fields.names ⊆ fields.names) : l.Continues [.fields] { l with fields } where
  same part hpart := by cases part <;> simp_all [Part.Same]
  starts := id
  names := h

theorem continues_setField (l : Line) (name value : String) :
    l.Continues [.fields] (l.setField name value) :=
  l.continues_fields fun _ hn => Keyed.mem_names_insert.mpr (Or.inr hn)

theorem continues_mergeFields (l : Line) (pairs : List (String × String)) :
    l.Continues [.fields] (l.mergeFields pairs) :=
  l.continues_fields (l.fields.names_subset_insertAll pairs)

/-- What a filter marks keeps its fields, and has those captured besides. -/
theorem names_subset_marked (l : Line) (pattern : Option Pattern) (color : Color)
    (address : Option Address) :
    l.fields.names ⊆ (l.marked pattern color address).fields.names := by
  have hmerge : ∀ (ks : List (Keyed String)) (l : Line),
      l.fields.names ⊆ (ks.foldl (fun acc k => acc.mergeFields k.entries) l).fields.names := by
    intro ks
    induction ks with
    | nil => exact fun l => List.Subset.refl _
    | cons k ks ih =>
      exact fun l => List.Subset.trans (l.continues_mergeFields k.entries).names (ih _)
  unfold marked
  split
  · cases pattern with
    | none =>
      obtain ⟨highlights, hall⟩ := l.highlightAll_frame color
      rw [hall]
      exact List.Subset.refl _
    | some p =>
      obtain ⟨highlights, hspans⟩ := l.highlightSpans_frame (p.spans l.text.toList) color
      have hmark := hmerge (l.captures p) (l.highlightSpans (p.spans l.text.toList) color)
      rw [hspans] at hmark
      simpa only [mark, hspans] using hmark
  · exact List.Subset.refl _

/-- **A filter** may change what is shown and matched, the fields and the
highlights. -/
theorem continues_filtered (l : Line) (pattern : Option Pattern) (kind : FilterKind)
    (color : Color) (address : Option Address) :
    l.Continues [.visible, .matched, .fields, .highlights]
      (l.filtered pattern kind color address) := by
  have hnames := l.names_subset_marked pattern color address
  obtain ⟨fields, highlights, hmarked⟩ := l.marked_frame pattern color address
  obtain ⟨visible, matched, hsettle⟩ :=
    settle_frame kind (l.isFound pattern address) (l.marked pattern color address)
  -- the frame tells that nothing else changes, but not that the fields it sets hold the old names
  rw [filtered, hsettle]
  rw [hmarked] at hnames ⊢
  exact ⟨fun part hpart => by cases part <;> simp_all [Part.Same], id, hnames⟩

end Line

end LogSift
