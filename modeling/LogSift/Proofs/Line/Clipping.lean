import Mathlib.Data.List.Basic
import Mathlib.Data.List.TakeDrop
import LogSift.Proofs.Display.Tiling
import LogSift.Proofs.Line.Highlights
/-!
# Cutting a line clips its highlights

A line is cut behind a number of characters, and what a highlight has
behind the cut is clipped off. It keeps its start and its color, and covers
the same of the bytes that are left (`exists_clip?_covers`). Clipping twice
is clipping at the nearer cut (`bind_clip?`), and so a line that is cut
twice has been cut once (`truncate_truncate`).
-/


namespace LogSift

namespace Line

variable {l : Line} {h h' : Highlight} {cut cut' limit limit' k : Nat}

/-! ## Clipping -/

/-- What is left of a highlight that lies in the text. -/
theorem clip?_eq_some_iff (hlt : h.span.start < h.span.stop) :
    clip? cut h = some h' ↔
      h.span.start < cut ∧ h' = ⟨⟨h.span.start, min h.span.stop cut⟩, h.color⟩ := by
  rw [clip?]
  by_cases hcut : h.span.start < cut
  · have hstart : min h.span.start (min h.span.stop cut) = h.span.start := by omega
    simp only [hstart, hcut, true_and]
    rw [if_pos (by omega)]
    exact ⟨fun heq => (Option.some.inj heq).symm, fun heq => congrArg some heq.symm⟩
  · simp only [hcut, false_and, iff_false]
    rw [if_neg (by omega)]
    exact (Option.some_ne_none _).symm

/-- **A highlight that ends before the cut stays as it is.** -/
theorem clip?_of_stop_le (hlt : h.span.start < h.span.stop) (hle : h.span.stop ≤ cut) :
    clip? cut h = some h := by
  refine (clip?_eq_some_iff hlt).mpr ⟨Nat.lt_of_lt_of_le hlt hle, ?_⟩
  rw [Nat.min_eq_left hle]

/-- **What is left of a highlight covers what it has covered** before the cut. -/
theorem exists_clip?_covers (hk : k < cut) :
    (∃ h', clip? cut h = some h' ∧ h'.Covers k) ↔ h.Covers k := by
  constructor
  · rintro ⟨h', hclip, hcovers⟩
    simp only [clip?] at hclip
    split at hclip
    · obtain rfl := Option.some.inj hclip
      simp only [Highlight.Covers] at hcovers ⊢
      omega
    · cases hclip
  · intro hcovers
    have hlt : h.span.start < h.span.stop := Nat.lt_of_le_of_lt hcovers.1 hcovers.2
    refine ⟨_, (clip?_eq_some_iff hlt).mpr ⟨Nat.lt_of_le_of_lt hcovers.1 hk, rfl⟩,
      hcovers.1, ?_⟩
    exact Nat.lt_min.mpr ⟨hcovers.2, hk⟩

/-- **Clipping twice is clipping at the nearer cut.** -/
theorem bind_clip? (cut cut' : Nat) (h : Highlight) :
    (clip? cut h).bind (clip? cut') = clip? (min cut cut') h := by
  by_cases hlt : h.span.start < h.span.stop
  · by_cases hcut : h.span.start < cut
    · rw [(clip?_eq_some_iff hlt).mpr ⟨hcut, rfl⟩, Option.bind_some, clip?, clip?]
      simp only [Nat.min_assoc]
    · -- nothing is left before the first cut, and nothing before the nearer one
      rw [clip?, clip?, if_neg (by simp; omega), if_neg (by simp; omega)]
      rfl
  · rw [clip?, clip?, if_neg (by simp; omega), if_neg (by simp; omega)]
    rfl

/-- The colors of the highlights that cover a byte, the one on top last. -/
def colorsAt (l : Line) (k : Nat) : List Color :=
  (l.highlights.filter (·.Covers k)).map (·.color)

/-- Bytes before the cut keep their colors. -/
theorem map_color_filterMap_clip? (hs : List Highlight) (hk : k < cut) :
    ((hs.filterMap (clip? cut)).filter (·.Covers k)).map (·.color) =
      (hs.filter (·.Covers k)).map (·.color) := by
  induction hs with
  | nil => rfl
  | cons h hs ih =>
    by_cases hcovers : h.Covers k
    · obtain ⟨h', hclip, hcovers'⟩ := (exists_clip?_covers hk).mpr hcovers
      have hlt : h.span.start < h.span.stop := Nat.lt_of_le_of_lt hcovers.1 hcovers.2
      have hcolor : h'.color = h.color := by rw [((clip?_eq_some_iff hlt).mp hclip).2]
      simp only [List.filterMap_cons_some hclip, List.filter_cons, hcovers, hcovers', decide_true,
        if_true, List.map_cons, hcolor, ih]
    · have hnone : ∀ h', clip? cut h = some h' → ¬ h'.Covers k := fun h' hclip hcovers' =>
        hcovers ((exists_clip?_covers hk).mp ⟨h', hclip, hcovers'⟩)
      rw [List.filter_cons_of_neg (by simpa using hcovers), ← ih]
      cases hclip : clip? cut h with
      | none => rw [List.filterMap_cons_none hclip]
      | some h' =>
        rw [List.filterMap_cons_some hclip,
          List.filter_cons_of_neg (by simpa using hnone h' hclip)]

/-! ## Cutting -/

/-- A line that is not longer is left alone. -/
theorem truncate_of_length_le (hle : l.text.toList.length ≤ limit) : l.truncate limit = l := by
  rw [truncate, if_neg (by simpa [exceeds] using hle)]

/-- **The text that is left** is as many characters as the limit allows. -/
theorem truncate_text_toList (l : Line) (limit : Nat) :
    (l.truncate limit).text.toList = l.text.toList.take limit := by
  rw [truncate]
  split
  · exact String.toList_ofList
  · rename_i hexceeds
    exact (List.take_of_length_le (by simpa [exceeds] using hexceeds)).symm

/-- **What is cut off is the end of the text**, and of the highlights what lay there. -/
theorem truncate_of_lt (hlt : limit < l.text.toList.length) :
    l.truncate limit = { l with
      text := String.ofList (l.text.toList.take limit)
      highlights := l.highlights.filterMap
        (clip? (Text.byteLength (l.text.toList.take limit))) } := by
  rw [truncate, if_pos (by simpa [exceeds] using hlt)]

/-- **What a line keeps of its highlights** is what the end of its text leaves of them. -/
theorem truncate_highlights (hl : l.Aligned) (limit : Nat) :
    (l.truncate limit).highlights =
      l.highlights.filterMap (clip? (l.truncate limit).byteLength) := by
  rw [truncate]
  split
  · rw [byteLength, String.toList_ofList]
  · -- nothing is cut off, and no highlight reaches beyond the text
    have hkept : ∀ h ∈ l.highlights, clip? l.byteLength h = some h := fun h hh =>
      clip?_of_stop_le (hl h hh).lt (hl h hh).span.stop_le
    rw [List.filterMap_congr hkept, List.filterMap_some]

/-- **Cutting twice is cutting at the smaller limit.** -/
theorem truncate_truncate (l : Line) (limit limit' : Nat) :
    (l.truncate limit).truncate limit' = l.truncate (min limit limit') := by
  rcases Nat.lt_or_ge limit l.text.toList.length with hlt | hge
  · have hlength : limit = (l.truncate limit).text.toList.length := by
      rw [truncate_text_toList, List.length_take, Nat.min_eq_left (Nat.le_of_lt hlt)]
    rcases Nat.lt_or_ge limit' limit with hlt' | hge'
    · have htake : (l.text.toList.take limit).take limit' = l.text.toList.take limit' := by
        rw [List.take_take, Nat.min_eq_left (Nat.le_of_lt hlt')]
      have hle : Text.byteLength (l.text.toList.take limit') ≤
          Text.byteLength (l.text.toList.take limit) :=
        Text.byteLength_le_of_prefix (List.take_prefix_take_left (Nat.le_of_lt hlt'))
      rw [Nat.min_eq_right (Nat.le_of_lt hlt'), truncate_of_lt (Nat.lt_of_lt_of_eq hlt' hlength),
        truncate_of_lt hlt, truncate_of_lt (Nat.lt_trans hlt' hlt)]
      simp only [String.toList_ofList, htake, List.filterMap_filterMap, bind_clip?,
        Nat.min_eq_right hle]
    · rw [Nat.min_eq_left hge',
        truncate_of_length_le (Nat.le_trans (Nat.le_of_eq hlength.symm) hge')]
  · rw [truncate_of_length_le hge]
    rcases Nat.lt_or_ge limit' limit with hlt' | hge'
    · rw [Nat.min_eq_right (Nat.le_of_lt hlt')]
    · rw [Nat.min_eq_left hge', truncate_of_length_le hge,
        truncate_of_length_le (Nat.le_trans hge hge')]

/-- **Cutting clips a line and composes.** Of a line whose highlights fit its text it takes
something away iff the text has more characters than the limit. What is left is
the text up to there, and of each highlight, in order and with its color, what
covers that: so each byte that is left is covered in the same colors, one on top
of the other, as before, and every highlight that is left fits the text. Nothing
else of the line changes. And to cut again at another limit is to have cut at the
smaller one. -/
theorem truncate_clips (hl : l.Aligned) (limit : Nat) :
    (l.exceeds limit = true ↔ limit < l.text.toList.length) ∧
      (l.exceeds limit = true ↔ (l.truncate limit).text ≠ l.text) ∧
      (l.truncate limit).text.toList =
        l.text.toList.take (min limit l.text.toList.length) ∧
      (∃ left : Highlight → Option Highlight,
        l.truncate limit = { l with
          text := (l.truncate limit).text
          highlights := l.highlights.filterMap left } ∧
        ∀ h ∈ l.highlights,
          (∀ h', left h = some h' → h'.color = h.color ∧ h'.span.start = h.span.start) ∧
          ∀ k < (l.truncate limit).byteLength,
            h.Covers k ↔ ∃ h', left h = some h' ∧ h'.Covers k) ∧
      (∀ k < (l.truncate limit).byteLength, (l.truncate limit).colorsAt k = l.colorsAt k) ∧
      (l.truncate limit).Aligned ∧
      ∀ limit', (l.truncate limit).truncate limit' = l.truncate (min limit limit') := by
  have hexceeds : l.exceeds limit = true ↔ limit < l.text.toList.length := by simp [exceeds]
  refine ⟨hexceeds, ?_, ?_, ⟨clip? (l.truncate limit).byteLength, ?_, fun h hh => ⟨?_, ?_⟩⟩,
    ?_, hl.truncate limit, truncate_truncate l limit⟩
  · rw [hexceeds, ne_eq, ← String.toList_inj, truncate_text_toList, List.take_eq_self_iff]
    exact Nat.not_le.symm
  · rw [truncate_text_toList, List.take_eq_take_min]
  · rw [← truncate_highlights hl limit, truncate]
    split <;> rfl
  · intro h' hclip
    rw [((clip?_eq_some_iff (hl h hh).lt).mp hclip).2]
    exact ⟨rfl, rfl⟩
  · exact fun k hk => (exists_clip?_covers hk).symm
  · intro k hk
    rw [colorsAt, truncate_highlights hl limit]
    exact map_color_filterMap_clip? l.highlights hk

/-- A line with letters of two bytes is cut within a highlight that overlaps another, first
behind four characters and then behind two. -/
theorem truncate_clips_of_overlap :
    let blue : Color := ⟨0, 0, 255⟩
    let red : Color := ⟨255, 0, 0⟩
    let l : Line := { ofText "aéòbc" 1 with
      highlights := [⟨⟨1, 6⟩, blue⟩, ⟨⟨3, 5⟩, red⟩, ⟨⟨0, 7⟩, red⟩, ⟨⟨6, 7⟩, blue⟩] }
    l.Aligned ∧ l.exceeds 3 = true ∧ (l.truncate 3).text = "aéò" ∧
      (l.truncate 3).highlights = [⟨⟨1, 5⟩, blue⟩, ⟨⟨3, 5⟩, red⟩, ⟨⟨0, 5⟩, red⟩] ∧
      (l.truncate 3).colorsAt 4 = [blue, red, red] ∧ l.colorsAt 4 = [blue, red, red] ∧
      (l.truncate 3).truncate 1 = l.truncate 1 := by
  intro blue red l
  have haligned : l.Aligned := by
    have hends : ∀ h ∈ l.highlights, h.span.start < h.span.stop ∧
        Text.isBoundary h.span.start l.text.toList = true ∧
        Text.isBoundary h.span.stop l.text.toList = true := by decide
    intro h hh
    obtain ⟨hlt, hstart, hstop⟩ := hends h hh
    exact ⟨hlt, Pattern.Span.fits_of_isBoundary (Nat.le_of_lt hlt) hstart hstop⟩
  obtain ⟨-, -, -, -, hcolors, -, htwice⟩ := truncate_clips haligned 3
  have hold : l.colorsAt 4 = [blue, red, red] := by decide
  refine ⟨haligned, by decide, by decide, by decide, ?_, hold, htwice 1⟩
  rw [hcolors 4 (by decide), hold]

end Line

end LogSift
