import LogSift.Proofs.Line.Highlights
import LogSift.Proofs.Log.Lines
import LogSift.Proofs.Pattern.FindsText
import LogSift.Proofs.Script.Selection
/-!
# Matched and highlighted lines

A line counts as matched by what filters have found, and has highlights for
many reasons. As long as no section starts at it and it is highlighted by
filters that find text the two are in step (`Line.InStep`): a matched line
has highlights, and one with highlights is matched unless it is hidden.
Then to hide what has not been matched is to hide what is not highlighted
(`hideUnmatched_eq_hideUnhighlighted`).
-/


namespace LogSift

namespace Line

variable {l l' : Line} {p : Pattern} {pattern : Option Pattern} {kind : FilterKind}

/-! ## What a filter marks -/

theorem highlights_prefix_highlight (l : Line) (s : Pattern.Span) (color : Color) :
    l.highlights <+: (l.highlight s color).highlights := by
  rw [highlight]
  split
  · exact List.prefix_append ..
  · exact List.prefix_refl _

theorem highlights_prefix_highlightSpans (l : Line) (spans : List Pattern.Span) (color : Color) :
    l.highlights <+: (l.highlightSpans spans color).highlights := by
  induction spans generalizing l with
  | nil => exact List.prefix_refl _
  | cons s spans ih => exact (l.highlights_prefix_highlight s color).trans (ih _)

theorem mark_highlights (l : Line) (p : Pattern) (color : Color) :
    (l.mark p color).highlights = (l.highlightSpans (p.spans l.text.toList) color).highlights :=
  (foldl_mergeFields _ (l.captures p)).2

/-- Where a filter finds nothing it marks nothing. -/
theorem marked_of_not_isFound {address : Option Address} (h : l.isFound pattern address = false)
    (color : Color) : l.marked pattern color address = l := by
  rw [isFound_eq] at h
  unfold marked
  split
  · rename_i hrange
    cases pattern with
    | none => simp [hrange] at h
    | some p => exact mark_of_not_hasMatch (by simpa [hrange] using h) color
  · rfl

/-- **A pattern that finds text highlights some** where it is found. -/
theorem mark_highlights_ne_nil (hp : p.FindsText) (h : p.hasMatch l.text.toList = true)
    (color : Color) : (l.mark p color).highlights ≠ [] := by
  rw [mark_highlights]
  rw [Pattern.hasMatch, Pattern.Program.hasMatch_eq, Bool.not_eq_true'] at h
  obtain ⟨m, ms, hmatches⟩ := List.exists_cons_of_ne_nil (by simpa using h)
  have hm : m ∈ p.allMatches l.text.toList := by
    rw [Pattern.allMatches, hmatches]
    exact List.mem_cons_self
  have hstop : m.span.stop ≤ l.byteLength :=
    ((p.finder.allMatches_successive l.text.toList).within m hm).fits.stop_le
  have hset : (l.highlight m.span color).highlights = l.highlights ++ [⟨m.span, color⟩] := by
    simp [highlight, hp _ m hm, hstop]
  have hspans : p.spans l.text.toList =
      m.span :: ((p.finder.groups.filterMap fun g => m.group? g.1) ++ ms.flatMap p.spansOf) := by
    rw [Pattern.spans, Pattern.allMatches, hmatches]
    rfl
  rw [hspans]
  -- the first match is highlighted, and the others add to that
  have hgrows := (l.highlight m.span color).highlights_prefix_highlightSpans
    ((p.finder.groups.filterMap fun g => m.group? g.1) ++ ms.flatMap p.spansOf) color
  intro hnil
  have hempty : (l.highlight m.span color).highlights = [] :=
    List.prefix_nil.mp (hnil ▸ hgrows)
  rw [hset] at hempty
  simp at hempty

/-! ## Lines in step -/

/-- **Matches and highlights of a line are in step.** -/
structure InStep (l : Line) : Prop where
  no_section : l.beginSection = false
  highlighted : l.matched = true → l.highlights ≠ []
  matched : l.visible = true → l.highlights ≠ [] → l.matched = true

/-- A new line without highlights is in step. -/
theorem inStep_ofText (text : String) (n : Nat) : (ofText text n).InStep :=
  ⟨rfl, by simp [ofText], by simp [ofText]⟩

theorem InStep.congr (hl : l.InStep) (hsection : l'.beginSection = l.beginSection)
    (hvisible : l'.visible = l.visible) (hmatched : l'.matched = l.matched)
    (hhighlights : l'.highlights = l.highlights) : l'.InStep := by
  refine ⟨hsection.trans hl.no_section, ?_, ?_⟩
  · rw [hmatched, hhighlights]
    exact hl.highlighted
  · rw [hvisible, hmatched, hhighlights]
    exact hl.matched

/-- So is a line that is hidden. -/
theorem InStep.hide (hl : l.InStep) : ({ l with visible := false } : Line).InStep :=
  ⟨hl.no_section, hl.highlighted, fun h => absurd h Bool.false_ne_true⟩

theorem InStep.settle_not_found (hl : l.InStep) (kind : FilterKind) :
    (kind.settle false l).InStep := by
  cases kind with
  | required => simpa [FilterKind.settle] using hl.hide
  | add | highlight => simpa [FilterKind.settle] using hl
  | remove =>
    rw [FilterKind.settle, if_neg (by simp [hl.no_section])]
    exact hl.congr rfl (Bool.and_true _) (Bool.and_true _) rfl

/-- A line that is found is in step if it is highlighted, and if it is removed in any case. -/
theorem InStep.settle_found (hsection : l.beginSection = false)
    (h : kind = .remove ∨ l.highlights ≠ []) : (kind.settle true l).InStep := by
  cases kind with
  | remove => simp [FilterKind.settle, hsection, InStep.mk]
  | required | add | highlight =>
    have hne : l.highlights ≠ [] := h.resolve_left (by simp)
    exact ⟨hsection, fun _ => hne, fun _ _ => Bool.or_true _⟩

/-- **A filter keeps a line in step** if it finds text, or hides what it finds. -/
theorem InStep.filtered (hl : l.InStep)
    (hfinds : kind = .remove ∨ ∃ p, pattern = some p ∧ p.FindsText) (color : Color)
    (address : Option Address) : (l.filtered pattern kind color address).InStep := by
  rw [Line.filtered]
  rcases hfound : l.isFound pattern address
  · rw [marked_of_not_isFound hfound]
    exact hl.settle_not_found kind
  · have hsection : (l.marked pattern color address).beginSection = false := by
      obtain ⟨_, _, hmarked⟩ := l.marked_frame pattern color address
      rw [hmarked]
      exact hl.no_section
    refine InStep.settle_found hsection (hfinds.imp_right ?_)
    rintro ⟨p, rfl, hp⟩
    rw [isFound_eq, Bool.and_eq_true] at hfound
    rw [marked, if_pos hfound.1]
    exact mark_highlights_ne_nil hp hfound.2 color

end Line

namespace Log

variable {log : Log}

/-- **All lines are in step.** -/
def InStep (log : Log) : Prop := ∀ l ∈ log, l.InStep

/-- The lines without highlights hidden. -/
def hideUnhighlighted (log : Log) : Log :=
  log.map fun l => if l.highlights = [] then { l with visible := false } else l

/-- **The lines that are not matched are hidden**, and nothing else changes. -/
theorem hideUnmatched_eq_map (log : Log) :
    log.hideUnmatched.2 = log.map fun l => if l.matched then l else { l with visible := false } := by
  refine List.map_congr_left fun l _ => ?_
  obtain ⟨_, _, visible, matched, _, _, _⟩ := l
  cases visible <;> cases matched <;> rfl

/-- **In step, these are the lines without highlights.** -/
theorem hideUnmatched_eq_hideUnhighlighted (h : log.InStep) :
    log.hideUnmatched.2 = log.hideUnhighlighted := by
  rw [hideUnmatched_eq_map]
  refine List.map_congr_left fun l hl => ?_
  have hstep : l.InStep := h l hl
  by_cases hmatched : l.matched = true
  · rw [if_pos hmatched, if_neg (hstep.highlighted hmatched)]
  · rw [if_neg hmatched]
    split
    · rfl
    · -- what is highlighted without having been matched is hidden already
      rename_i hhighlights
      have hvisible : l.visible = false := by
        rw [← Bool.not_eq_true]
        exact fun hvisible => hmatched (hstep.matched hvisible hhighlights)
      rw [← hvisible]

theorem InStep.renumber (h : log.InStep) : log.renumber.InStep :=
  forall_mem_renumber (fun _ _ hl => hl.congr rfl rfl rfl rfl) h

theorem InStep.appendTexts (h : log.InStep) (texts : List String) :
    (log.appendTexts texts).InStep :=
  forall_mem_appendTexts Line.inStep_ofText h

theorem InStep.filterLines (h : log.InStep) {pattern : Option Pattern} {kind : FilterKind}
    {address : Option Address}
    (hfinds : kind = .remove ∨ ∃ p, (address.bind (·.pattern)).or pattern = some p ∧ p.FindsText)
    (color : Color) : (log.filterLines pattern kind color address).2.InStep := by
  intro l hl
  obtain ⟨m, hm, rfl⟩ := List.mem_map.mp hl
  exact (h m hm).filtered hfinds color address

end Log

end LogSift
