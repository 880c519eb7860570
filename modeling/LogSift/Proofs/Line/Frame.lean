import LogSift.Log.Filter
/-!
# What changes of a line

An operation on a line sets a few of its parts and leaves the others as
they are. Each lemma says which: the line afterwards is the line before
with other values for these parts, whatever they are.
-/


namespace LogSift

namespace Line

variable {l l' : Line}

/-- Highlighting sets the highlights. -/
theorem highlight_frame (l : Line) (s : Pattern.Span) (color : Color) :
    ∃ highlights, l.highlight s color = { l with highlights } := by
  rw [highlight]
  split
  · exact ⟨_, rfl⟩
  · exact ⟨l.highlights, rfl⟩

theorem highlightSpans_frame (l : Line) (spans : List Pattern.Span) (color : Color) :
    ∃ highlights, l.highlightSpans spans color = { l with highlights } := by
  induction spans generalizing l with
  | nil => exact ⟨l.highlights, rfl⟩
  | cons s spans ih =>
    obtain ⟨first, hfirst⟩ := l.highlight_frame s color
    obtain ⟨highlights, hspans⟩ := ih (l.highlight s color)
    refine ⟨highlights, ?_⟩
    rw [highlightSpans, List.foldl_cons, ← highlightSpans, hspans, hfirst]

theorem highlightAll_frame (l : Line) (color : Color) :
    ∃ highlights, l.highlightAll color = { l with highlights } :=
  l.highlight_frame _ color

/-- The start of a section is a start, and highlighted. -/
theorem startSection_frame (l : Line) (color : Color) :
    ∃ highlights, l.startSection color = { l with beginSection := true, highlights } :=
  highlightAll_frame { l with beginSection := true } color

/-- A line that is changed has another text, and is highlighted. -/
theorem setText_frame (l : Line) (text : String) (color : Color) :
    ∃ highlights, l.setText text color = { l with text, highlights } :=
  highlightAll_frame { l with text, highlights := [] } color

/-- Keeping what has been captured sets fields. -/
theorem foldl_mergeFields_frame (l : Line) (ks : List (Keyed String)) :
    ∃ fields, ks.foldl (fun acc k => acc.mergeFields k.entries) l = { l with fields } := by
  induction ks generalizing l with
  | nil => exact ⟨l.fields, rfl⟩
  | cons k ks ih =>
    obtain ⟨fields, hfields⟩ := ih (l.mergeFields k.entries)
    exact ⟨fields, hfields⟩

/-- A filter marks a line with highlights and fields. -/
theorem marked_frame (l : Line) (pattern : Option Pattern) (color : Color)
    (address : Option Address) :
    ∃ fields highlights, l.marked pattern color address = { l with fields, highlights } := by
  unfold marked
  split
  · cases pattern with
    | none =>
      obtain ⟨highlights, hall⟩ := l.highlightAll_frame color
      exact ⟨l.fields, highlights, hall⟩
    | some p =>
      obtain ⟨highlights, hspans⟩ := l.highlightSpans_frame (p.spans l.text.toList) color
      obtain ⟨fields, hmark⟩ :=
        foldl_mergeFields_frame (l.highlightSpans (p.spans l.text.toList) color) (l.captures p)
      refine ⟨fields, highlights, ?_⟩
      simp only [mark]
      rw [hmark, hspans]
  · exact ⟨l.fields, l.highlights, rfl⟩

/-- A filter settles whether a line is shown and counts as matched. -/
theorem settle_frame (kind : FilterKind) (found : Bool) (l : Line) :
    ∃ visible matched, kind.settle found l = { l with visible, matched } := by
  cases kind with
  | required | add => exact ⟨_, _, rfl⟩
  | highlight => exact ⟨l.visible, _, rfl⟩
  | remove =>
    rw [FilterKind.settle]
    split
    · exact ⟨l.visible, l.matched, rfl⟩
    · exact ⟨_, _, rfl⟩

/-- **A filter leaves the text alone**, the number of the line, and whether a
section starts at it. -/
theorem filtered_frame (l : Line) (pattern : Option Pattern) (kind : FilterKind) (color : Color)
    (address : Option Address) :
    ∃ visible matched fields highlights,
      l.filtered pattern kind color address =
        { l with visible, matched, fields, highlights } := by
  obtain ⟨fields, highlights, hmarked⟩ := l.marked_frame pattern color address
  obtain ⟨visible, matched, hsettle⟩ :=
    settle_frame kind (l.isFound pattern address) (l.marked pattern color address)
  refine ⟨visible, matched, fields, highlights, ?_⟩
  rw [filtered, hsettle, hmarked]

/-- A cut sets the text and the highlights. -/
theorem truncate_frame (l : Line) (limit : Nat) :
    ∃ text highlights, l.truncate limit = { l with text, highlights } := by
  rw [truncate]
  split
  · exact ⟨_, _, rfl⟩
  · exact ⟨l.text, l.highlights, rfl⟩

/-- And so does a replacement. -/
theorem replace?_frame {p : Pattern} {replacement : String} {all : Bool}
    (h : l.replace? p replacement all = some l') :
    ∃ text highlights, l' = { l with text, highlights } := by
  simp only [replace?] at h
  split at h
  · cases h
  · exact ⟨_, _, (Option.some.inj h).symm⟩

end Line

end LogSift
