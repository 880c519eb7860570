import LogSift.Log.Filter
import LogSift.Proofs.Line.Replace
/-!
# Highlights lie on the text

A line is aligned if each of its highlights is a part of its text that
is not empty and lies between boundaries. What sets a highlight takes
its ends from matches or from the ends of the text. What changes the
text takes the highlights along: a cut clips them at its own end
(`clip?_fits`), and a replacement moves their ends from boundary to
boundary (`remapHighlight?_fits`).
-/


namespace LogSift

open Pattern (Span InOrder)

/-- **A highlight fits a text** if it is a part of it that is not empty, and
the text can be cut at both ends. -/
structure Highlight.Fits (text : List Char) (h : Highlight) : Prop where
  lt : h.span.start < h.span.stop
  span : h.span.Fits text

namespace Line

variable {l l' : Line} {text kept : List Char} {h h' : Highlight} {color : Color} {spans : List Span}

/-- **All highlights fit the text.** -/
def Aligned (l : Line) : Prop := ∀ h ∈ l.highlights, h.Fits l.text.toList

/-- Alignment is about the text and the highlights only. -/
theorem Aligned.congr (hl : l.Aligned) (htext : l'.text = l.text)
    (hhighlights : l'.highlights = l.highlights) : l'.Aligned := by
  rw [Aligned, htext, hhighlights]
  exact hl

/-- A line without highlights is aligned, as one that has been loaded. -/
theorem aligned_of_highlights_nil (hl : l.highlights = []) : l.Aligned := by
  simp [Aligned, hl]

/-! ## Setting highlights -/

@[simp] theorem highlight_text (l : Line) (s : Span) (color : Color) :
    (l.highlight s color).text = l.text := by
  rw [highlight]
  split <;> rfl

/-- A highlight between boundaries keeps a line aligned: an empty one is
not set. -/
theorem Aligned.highlight (hl : l.Aligned) {s : Span}
    (hs : Text.isBoundary s.start l.text.toList = true ∧
      Text.isBoundary s.stop l.text.toList = true) (color : Color) :
    (l.highlight s color).Aligned := by
  rw [Line.highlight]
  split
  · rename_i hset
    simp only [Bool.and_eq_true, decide_eq_true_eq] at hset
    intro h hh
    rcases List.mem_append.mp hh with hh | hh
    · exact hl h hh
    · obtain rfl := List.mem_singleton.mp hh
      exact ⟨hset.1, Pattern.Span.fits_of_isBoundary (Nat.le_of_lt hset.1) hs.1 hs.2⟩
  · exact hl

/-- Highlights between boundaries do. -/
theorem Aligned.highlightSpans (hl : l.Aligned)
    (hs : ∀ s ∈ spans, Text.isBoundary s.start l.text.toList = true ∧
      Text.isBoundary s.stop l.text.toList = true) (color : Color) :
    (l.highlightSpans spans color).Aligned := by
  induction spans generalizing l with
  | nil => exact hl
  | cons s spans ih =>
    refine ih (hl.highlight (hs s List.mem_cons_self) color) fun t ht => ?_
    rw [highlight_text]
    exact hs t (List.mem_cons_of_mem s ht)

/-- Highlighting the whole text does. -/
theorem Aligned.highlightAll (hl : l.Aligned) (color : Color) : (l.highlightAll color).Aligned :=
  hl.highlight ⟨Text.isBoundary_zero _, Text.isBoundary_byteLength _⟩ color

theorem Aligned.startSection (hl : l.Aligned) (color : Color) : (l.startSection color).Aligned :=
  (hl.congr rfl rfl : ({ l with beginSection := true } : Line).Aligned).highlightAll color

/-- A text that is set comes with its own highlight. -/
theorem setText_aligned (l : Line) (text : String) (color : Color) :
    (l.setText text color).Aligned :=
  (aligned_of_highlights_nil rfl).highlightAll color

/-! ## Filters -/

/-- Keeping fields is neither about the text nor about highlights. -/
theorem foldl_mergeFields (l : Line) (ks : List (Keyed String)) :
    (ks.foldl (fun acc k => acc.mergeFields k.entries) l).text = l.text ∧
      (ks.foldl (fun acc k => acc.mergeFields k.entries) l).highlights = l.highlights := by
  induction ks generalizing l with
  | nil => exact ⟨rfl, rfl⟩
  | cons k ks ih => exact ih (l.mergeFields k.entries)

/-- **The marks of a pattern lie on boundaries.** -/
theorem Aligned.mark (hl : l.Aligned) (p : Pattern) (color : Color) : (l.mark p color).Aligned := by
  obtain ⟨htext, hhighlights⟩ :=
    foldl_mergeFields (l.highlightSpans (p.spans l.text.toList) color) (l.captures p)
  refine Aligned.congr ?_ htext hhighlights
  exact hl.highlightSpans (fun s hs => Pattern.isBoundary_of_mem_spans hs) color

/-- A filter settles only which lines are shown and matched. -/
theorem Aligned.settle (hl : l.Aligned) (kind : FilterKind) (found : Bool) :
    (kind.settle found l).Aligned := by
  cases kind with
  | required | add | highlight => exact hl.congr rfl rfl
  | remove =>
    rw [FilterKind.settle]
    split <;> exact hl.congr rfl rfl

theorem Aligned.filtered (hl : l.Aligned) (pattern : Option Pattern) (kind : FilterKind)
    (color : Color) (address : Option Address) :
    (l.filtered pattern kind color address).Aligned := by
  refine Aligned.settle ?_ kind _
  unfold marked
  split
  · cases pattern with
    | none => exact hl.highlightAll color
    | some p => exact hl.mark p color
  · exact hl

/-! ## Cutting -/

/-- **What is left of a highlight fits what is left of the text.** -/
theorem clip?_fits {cut : List Char} (hfits : h.Fits (kept ++ cut))
    (hclip : clip? (Text.byteLength kept) h = some h') : h'.Fits kept := by
  simp only [clip?] at hclip
  split at hclip
  · rename_i hlt
    obtain rfl := Option.some.inj hclip
    have hstart := Text.isBoundary_min hfits.span.start
    have hmin : min h.span.start (min h.span.stop (Text.byteLength kept)) =
        min h.span.start (Text.byteLength kept) := by
      have := hfits.lt
      omega
    refine ⟨hlt, Pattern.Span.fits_of_isBoundary (Nat.le_of_lt hlt) ?_ ?_⟩
    · rw [hmin]
      exact hstart
    · exact Text.isBoundary_min hfits.span.stop
  · cases hclip

theorem Aligned.truncate (hl : l.Aligned) (limit : Nat) : (l.truncate limit).Aligned := by
  rw [Line.truncate]
  split
  · intro h hh
    obtain ⟨h₀, hmem, hclip⟩ := List.mem_filterMap.mp hh
    have hfits : h₀.Fits (l.text.toList.take limit ++ l.text.toList.drop limit) := by
      rw [List.take_append_drop]
      exact hl h₀ hmem
    simp only [String.toList_ofList]
    exact clip?_fits hfits hclip
  · exact hl

/-! ## Replacing -/

/-- A place within the text is counted as it is. -/
theorem place_natCast {length n : Nat} (hn : n ≤ length) : place length n = n := by
  rw [place, if_pos ⟨by omega, by omega⟩, Int.toNat_natCast]

/-- **A highlight that has been moved fits the new text.** -/
theorem remapHighlight?_fits {replacement : List Char} (hparts : Parts 0 text spans)
    (hfits : h.Fits text)
    (hremap : remapHighlight?
      (spans.map fun s => ⟨s.start, s.stop, Text.byteLength replacement⟩)
      (Text.byteLength (splice text replacement 0 spans)) h = some h') :
    h'.Fits (splice text replacement 0 spans) := by
  obtain ⟨start, hstart, hstartBoundary⟩ :=
    remap_boundary hparts hfits.span.start false 0 replacement
  obtain ⟨stop, hstop, hstopBoundary⟩ :=
    remap_boundary hparts hfits.span.stop true 0 replacement
  -- both ends lie within the new text, so that no place wraps around
  simp only [Nat.zero_add, Int.ofNat_zero, Int.zero_add, Int.add_zero] at hstart hstop
  rw [remapHighlight?, hstart, hstop] at hremap
  simp only [place_natCast (Text.le_byteLength_of_isBoundary hstartBoundary),
    place_natCast (Text.le_byteLength_of_isBoundary hstopBoundary)] at hremap
  split at hremap
  · rename_i hset
    simp only [Bool.and_eq_true, decide_eq_true_eq] at hset
    obtain rfl := Option.some.inj hremap
    exact ⟨hset.1, Pattern.Span.fits_of_isBoundary (Nat.le_of_lt hset.1) hstartBoundary
      hstopBoundary⟩
  · cases hremap

/-- The spans that are replaced are in order. -/
theorem replacedSpans_inOrder (l : Line) (p : Pattern) (all : Bool) :
    InOrder l.text.toList 0 (l.replacedSpans p all) := by
  have hfound := Pattern.allMatches_inOrder p l.text.toList
  unfold replacedSpans
  cases all with
  | true => exact hfound
  | false => exact hfound.take 1

/-- So they cut the text into parts. -/
theorem parts_replacedSpans (l : Line) (p : Pattern) (all : Bool) :
    Parts 0 l.text.toList (l.replacedSpans p all) :=
  Parts.of_inOrder [] (l.replacedSpans_inOrder p all)

/-- **A replacement keeps a line aligned**, whether it makes the text longer
or shorter. -/
theorem Aligned.replace (hl : l.Aligned) {p : Pattern} {replacement : String} {all : Bool}
    (hreplace : l.replace? p replacement all = some l') : l'.Aligned := by
  simp only [replace?] at hreplace
  split at hreplace
  · cases hreplace
  · obtain rfl := Option.some.inj hreplace
    intro h hh
    obtain ⟨h₀, hmem, hremap⟩ := List.mem_filterMap.mp hh
    simp only [replacedText, applyEdits, String.toList_ofList] at hremap ⊢
    exact remapHighlight?_fits (l.parts_replacedSpans p all) (hl h₀ hmem) hremap

/-- The spans that a replacement keeps. -/
def keptSpans (l : Line) (p : Pattern) (all : Bool) : List Span :=
  gaps l.byteLength 0 (l.replacedSpans p all)

/-- **They lie on boundaries and in order**, and the new text is made of
them. -/
theorem keptSpans_inOrder (l : Line) (p : Pattern) (all : Bool) :
    InOrder l.text.toList 0 (l.keptSpans p all) :=
  gaps_inOrder (l.replacedSpans_inOrder p all) (Text.isBoundary_zero _)

theorem replacedText_toList (l : Line) (p : Pattern) (replacement : String) (all : Bool) :
    (l.replacedText p replacement all).toList =
      replacement.toList.intercalate
        ((l.keptSpans p all).map fun g => Text.slice g.start g.stop l.text.toList) := by
  rw [replacedText, String.toList_ofList]
  exact splice_eq_intercalate (l.parts_replacedSpans p all) [] rfl

end Line

end LogSift
