import LogSift.Proofs.Line.Landing
/-!
# Replacing keeps highlights on what they cover

A replacement carries the highlights of a line along: each covers the
bytes that it has covered before, so far as they are kept, and no other
kept bytes (`replace_keeps_covered`). A highlight that no replaced match
overlaps covers the same bytes in a row as before. At its end it takes in
the replacement of an empty match that stands there, though not at its
start (`replace_keeps_apart`).
-/


namespace LogSift

open Pattern (Span InOrder)

namespace Highlight

/-- The highlight covers the byte at an offset. -/
def Covers (h : Highlight) (k : Nat) : Prop := h.span.start ≤ k ∧ k < h.span.stop

/-- Both ends lie in a text of some length, or at its end. -/
def Within (h : Highlight) (length : Nat) : Prop :=
  h.span.start ≤ length ∧ h.span.stop ≤ length

/-- The highlight with other ends, unless it would be empty. -/
def withEnds? (h : Highlight) (start stop : Nat) : Option Highlight :=
  if start < stop then some ⟨⟨start, stop⟩, h.color⟩ else none

theorem exists_withEnds?_covers {h : Highlight} {start stop n : Nat} :
    (∃ h', h.withEnds? start stop = some h' ∧ h'.Covers n) ↔ start ≤ n ∧ n < stop := by
  rw [withEnds?]
  constructor
  · rintro ⟨h', hends, hcovers⟩
    split at hends
    · obtain rfl := Option.some.inj hends
      exact hcovers
    · cases hends
  · intro hn
    rw [if_pos (Nat.lt_of_le_of_lt hn.1 hn.2)]
    exact ⟨_, rfl, hn⟩

end Highlight

namespace Line

variable {l l' : Line} {p : Pattern} {replacement : String} {all : Bool} {h : Highlight}

/-! ## The edits of a replacement -/

/-- The edits by which the matches of a pattern give way to a text. -/
def replacingEdits (l : Line) (p : Pattern) (replacement : String) (all : Bool) : List Edit :=
  (l.replacedSpans p all).map fun s => ⟨s.start, s.stop, Text.byteLength replacement.toList⟩

/-- What is made of the highlights by a replacement. -/
theorem replace?_eq_some (hreplace : l.replace? p replacement all = some l') :
    l' = { l with
      text := l.replacedText p replacement all
      highlights := l.highlights.filterMap
        (remapHighlight? (l.replacingEdits p replacement all) l'.byteLength) } := by
  simp only [replace?] at hreplace
  split at hreplace
  · cases hreplace
  · obtain rfl := Option.some.inj hreplace
    rfl

theorem replace?_eq_none_iff :
    l.replace? p replacement all = none ↔ l.replacedText p replacement all = l.text := by
  simp only [replace?]
  split
  · rename_i hsame
    simp [hsame]
  · rename_i hother
    simp [hother]

/-- The replaced matches lie in the text. -/
theorem stop_le_of_mem_replacedSpans {s : Span} (hs : s ∈ l.replacedSpans p all) :
    s.stop ≤ l.byteLength :=
  ((l.replacedSpans_inOrder p all).fits s hs).stop_le

/-- **No place of the text leaves the new text**, so that the sums are never
negative and never too large. -/
theorem exists_remap_replacingEdits (hreplace : l.replace? p replacement all = some l')
    {pos : Nat} (hpos : pos ≤ l.byteLength) (isEnd : Bool) :
    ∃ n : Nat, n ≤ l'.byteLength ∧
      remap isEnd pos 0 (l.replacingEdits p replacement all) = n := by
  have hlength : l'.byteLength =
      Text.byteLength (splice l.text.toList replacement.toList 0 (l.replacedSpans p all)) := by
    rw [replace?_eq_some hreplace, byteLength, replacedText, String.toList_ofList]
  rw [hlength]
  exact exists_remap_eq (l.replacedSpans_inOrder p all) (l.parts_replacedSpans p all) hpos
    (fun s hs => stop_le_of_mem_replacedSpans hs) isEnd replacement.toList

/-- **A kept byte is found again** where it lands. -/
theorem exists_landing_replacedSpans (hreplace : l.replace? p replacement all = some l')
    {k : Nat} (hk : Kept (l.replacedSpans p all) k) (hlt : k < l.byteLength) :
    ∃ n : Nat,
      landing (Text.byteLength replacement.toList) (l.replacedSpans p all) k = n ∧
        (Text.Utf8.encode l'.text)[n]? = (Text.Utf8.encode l.text)[k]? := by
  obtain ⟨n, hn, hbyte⟩ := exists_landing (k := k) (l.replacedSpans_inOrder p all)
    (l.parts_replacedSpans p all) (by rwa [Nat.zero_add]) hlt replacement.toList
  rw [Nat.zero_add] at hn
  refine ⟨n, by omega, ?_⟩
  rw [replace?_eq_some hreplace, replacedText]
  rwa [String.ofList_toList] at hbyte

/-- What a highlight becomes, by where its ends go. -/
theorem remapHighlight?_eq_withEnds? {start stop length : Nat} {edits : List Edit}
    (hstart : remap false h.span.start 0 edits = start) (hstartLe : start ≤ length)
    (hstop : remap true h.span.stop 0 edits = stop) (hstopLe : stop ≤ length) :
    remapHighlight? edits length h = h.withEnds? start stop := by
  simp only [remapHighlight?, hstart, hstop, place_natCast hstartLe, place_natCast hstopLe,
    Highlight.withEnds?, Bool.and_eq_true, decide_eq_true_eq, hstopLe, and_true]

/-- **Ends go where they take in the same kept bytes.** -/
theorem covers_iff_landing {start stop k : Nat}
    (hstart : remap false h.span.start 0 (l.replacingEdits p replacement all) = start)
    (hstop : remap true h.span.stop 0 (l.replacingEdits p replacement all) = stop) {n : Nat}
    (hk : Kept (l.replacedSpans p all) k)
    (hn : landing (Text.byteLength replacement.toList) (l.replacedSpans p all) k = n) :
    h.Covers k ↔ start ≤ n ∧ n < stop := by
  have horder := l.replacedSpans_inOrder p all
  have hfirst := remap_le_landing_iff horder hk false (Text.byteLength replacement.toList)
    h.span.start 0
  have hlast := remap_le_landing_iff horder hk true (Text.byteLength replacement.toList)
    h.span.stop 0
  rw [replacingEdits] at hstart hstop
  rw [hstart, hn] at hfirst
  rw [hstop, hn] at hlast
  rw [Highlight.Covers]
  omega

/-! ## Highlights and what is kept -/

/-- **Replacing keeps highlights on the characters that survive.** It changes
a line iff the text with the matches replaced, all or the first, is another
text, and then the line has that text. Of a line whose highlights lie in
its text each highlight is moved, in order and with its color, and dropped
if it would be empty. No end leaves the new text. Each byte outside all
replaced matches is found again where it lands, in the same order as
before, and a highlight that is moved covers it there iff it has covered
it before. -/
theorem replace_keeps_covered (l : Line) (p : Pattern) (replacement : String) (all : Bool)
    (hwithin : ∀ h ∈ l.highlights, h.Within l.byteLength) :
    let spans := l.replacedSpans p all
    let edits := l.replacingEdits p replacement all
    let land := landing (Text.byteLength replacement.toList) spans
    let new := String.ofList (replacement.toList.intercalate
      ((l.keptSpans p all).map fun g => Text.slice g.start g.stop l.text.toList))
    (l.replace? p replacement all = none ↔ new = l.text) ∧
      ∀ l', l.replace? p replacement all = some l' →
        (∀ pos ≤ l.byteLength, ∀ isEnd, ∃ n : Nat, n ≤ l'.byteLength ∧
          remap isEnd pos 0 edits = n) ∧
        (∀ k k', Kept spans k → Kept spans k' → k < k' → land k < land k') ∧
        ∃ move : Highlight → Option Highlight,
          l' = { l with text := new, highlights := l.highlights.filterMap move } ∧
          ∀ h ∈ l.highlights, ∃ start stop : Nat,
            remap false h.span.start 0 edits = start ∧ remap true h.span.stop 0 edits = stop ∧
            move h = h.withEnds? start stop ∧
            ∀ k < l.byteLength, Kept spans k → ∃ n : Nat, land k = n ∧
              (Text.Utf8.encode l'.text)[n]? = (Text.Utf8.encode l.text)[k]? ∧
              (h.Covers k ↔ ∃ h', move h = some h' ∧ h'.Covers n) := by
  intro spans edits land new
  have hnew : new = l.replacedText p replacement all := by
    rw [← String.ofList_toList (s := l.replacedText p replacement all), replacedText_toList]
  refine ⟨by rw [hnew]; exact replace?_eq_none_iff, fun l' hreplace => ⟨?_, ?_, ?_⟩⟩
  · intro pos hpos isEnd
    exact exists_remap_replacingEdits hreplace hpos isEnd
  · intro k k' hk hk' hlt
    exact landing_lt_landing (l.replacedSpans_inOrder p all) hk hk' hlt
  · refine ⟨remapHighlight? edits l'.byteLength, ?_, fun h hh => ?_⟩
    · rw [hnew]
      exact replace?_eq_some hreplace
    · obtain ⟨hstartLe, hstopLe⟩ := hwithin h hh
      obtain ⟨start, hstartNew, hstart⟩ := exists_remap_replacingEdits hreplace hstartLe false
      obtain ⟨stop, hstopNew, hstop⟩ := exists_remap_replacingEdits hreplace hstopLe true
      have hmove := remapHighlight?_eq_withEnds? hstart hstartNew hstop hstopNew
      refine ⟨start, stop, hstart, hstop, hmove, fun k hlt hk => ?_⟩
      obtain ⟨n, hn, hbyte⟩ := exists_landing_replacedSpans hreplace hk hlt
      refine ⟨n, hn, hbyte, ?_⟩
      rw [hmove, Highlight.exists_withEnds?_covers]
      exact covers_iff_landing hstart hstop hk hn

/-- A highlight that starts within one match and ends before another, empty
one, still covers the first byte of the character between them. -/
theorem replace_keeps_covered_of_overlap :
    let h : Highlight := ⟨⟨2, 6⟩, Color.initial⟩
    let l : Line := { ofText "abcdéf" 1 with highlights := [h] }
    ∃ p, Pattern.ofSource "bc|$" = .ok p ∧ (∀ h ∈ l.highlights, h.Within l.byteLength) ∧
      Kept (l.replacedSpans p true) 4 ∧
      ∃ l', l.replace? p "XYZ" true = some l' ∧ l'.text = "aXYZdéfXYZ" ∧
        ∃ h' ∈ l'.highlights, h'.Covers 5 := by
  intro h l
  have hfound : (Pattern.ofSource "bc|$").toOption.map (fun p =>
      (l.replacedSpans p true, (l.replace? p "XYZ" true).map (·.text))) =
      some ([⟨1, 3⟩, ⟨7, 7⟩], some "aXYZdéfXYZ") := by decide +kernel
  obtain ⟨p, hp, hfound⟩ := Pattern.exists_ofSource hfound
  obtain ⟨hspans, hreplace⟩ := Prod.mk.inj hfound
  obtain ⟨l', hl', htext⟩ := Option.map_eq_some_iff.mp hreplace
  have hwithin : ∀ h ∈ l.highlights, h.Within l.byteLength := by
    intro h hh
    obtain rfl := List.mem_singleton.mp hh
    exact ⟨by decide, by decide⟩
  have hkept : Kept (l.replacedSpans p true) 4 := by
    rw [hspans]
    simp [Kept]
  obtain ⟨-, hreplaced⟩ := replace_keeps_covered l p "XYZ" true hwithin
  obtain ⟨-, -, move, hmove, hcarried⟩ := hreplaced l' hl'
  obtain ⟨start, stop, -, -, -, hbytes⟩ := hcarried h List.mem_cons_self
  obtain ⟨n, hn, -, hcovers⟩ := hbytes 4 (by decide) hkept
  have hland : landing (Text.byteLength "XYZ".toList) (l.replacedSpans p true) 4 = 5 := by
    rw [hspans]
    decide
  obtain rfl : n = 5 := by omega
  obtain ⟨h', hh', hcover⟩ := hcovers.mp ⟨by decide, by decide⟩
  refine ⟨p, hp, hwithin, hkept, l', hl', htext, h', ?_, hcover⟩
  rw [hmove]
  exact List.mem_filterMap.mpr ⟨h, List.mem_cons_self, hh'⟩

/-- **A highlight apart from the matches stays on what it covers**, and at its
end takes in what empty matches there are replaced by. If the text changes,
the highlight is still there in its color, it starts where its first byte
has landed and covers the same bytes in a row, and behind them as many
replacements as there are empty matches at its end. An empty match at its
start adds nothing to it. -/
theorem replace_keeps_apart (hreplace : l.replace? p replacement all = some l')
    (hh : h ∈ l.highlights) (hlt : h.span.start < h.span.stop) (hle : h.span.stop ≤ l.byteLength)
    (hapart : ∀ s ∈ l.replacedSpans p all, s.stop ≤ h.span.start ∨ h.span.stop ≤ s.start) :
    let spans := l.replacedSpans p all
    let length := Text.byteLength replacement.toList
    ∃ h' ∈ l'.highlights, h'.color = h.color ∧
      (h'.span.start : Int) = landing length spans h.span.start ∧
      h'.span.stop = h'.span.start + (h.span.stop - h.span.start) +
        spans.count ⟨h.span.stop, h.span.stop⟩ * length ∧
      ∀ i < h.span.stop - h.span.start,
        (Text.Utf8.encode l'.text)[h'.span.start + i]? =
          (Text.Utf8.encode l.text)[h.span.start + i]? := by
  intro spans length
  have horder : InOrder l.text.toList 0 spans := l.replacedSpans_inOrder p all
  have hfits : ∀ s ∈ spans, s.start ≤ s.stop := fun s hs => (horder.fits s hs).le
  have hkept : ∀ k, h.span.start ≤ k → k < h.span.stop → Kept spans k := by
    intro k hfirst hlast s hs
    rcases hapart s hs with hbefore | hbehind
    · exact Or.inr (by omega)
    · exact Or.inl (by omega)
  -- neither end is in a match, so that both go where a byte would land
  obtain ⟨start, hstartNew, hstart⟩ := exists_remap_replacingEdits hreplace
    (Nat.le_of_lt (Nat.lt_of_lt_of_le hlt hle)) false
  obtain ⟨stop, hstopNew, hstop⟩ := exists_remap_replacingEdits hreplace hle true
  have hstartLanding : (start : Int) = landing length spans h.span.start := by
    rw [← hstart, replacingEdits, remap_eq_landing horder (fun s hs => ?_), Int.add_zero]
    rcases hapart s hs with hbefore | hbehind
    · exact Or.inr hbefore
    · exact Or.inl (by omega)
  have hstopLanding : (stop : Int) = landing length spans h.span.stop := by
    rw [← hstop, replacingEdits, remap_eq_landing horder (fun s hs => ?_), Int.add_zero]
    rcases hapart s hs with hbefore | hbehind
    · exact Or.inr (by omega)
    · exact Or.inl hbehind
  have hends : stop = start + (h.span.stop - h.span.start) +
      spans.count ⟨h.span.stop, h.span.stop⟩ * length := by
    have hsum : landing length spans h.span.stop = landing length spans h.span.start +
        (h.span.stop - h.span.start) + spans.count ⟨h.span.stop, h.span.stop⟩ * length :=
      landing_stop_of_apart hapart hfits hlt
    rw [← hstartLanding, ← hstopLanding] at hsum
    omega
  have hmove := remapHighlight?_eq_withEnds? hstart hstartNew hstop hstopNew
  refine ⟨⟨⟨start, stop⟩, h.color⟩, ?_, rfl, hstartLanding, hends, fun i hi => ?_⟩
  · rw [replace?_eq_some hreplace]
    refine List.mem_filterMap.mpr ⟨h, hh, ?_⟩
    rw [hmove, Highlight.withEnds?, if_pos (by omega)]
  · obtain ⟨n, hn, hbyte⟩ := exists_landing_replacedSpans hreplace
      (hkept (h.span.start + i) (by omega) (by omega)) (by omega)
    have hrow : landing length spans (h.span.start + i) =
        landing length spans h.span.start + ((h.span.start + i : Nat) - h.span.start) :=
      landing_of_apart hapart hfits (Nat.le_add_right h.span.start i) (by omega)
    have hplace : n = start + i := by
      have hsame : landing length spans (h.span.start + i) = n := hn
      rw [hsame, ← hstartLanding] at hrow
      omega
    rw [← hplace]
    exact hbyte

/-- A highlight of the last character takes in what replaces the end of the
text, and the match before it moves it. -/
theorem replace_keeps_apart_of_end :
    let h : Highlight := ⟨⟨1, 3⟩, Color.initial⟩
    let l : Line := { ofText "aé" 1 with highlights := [h] }
    ∃ p, Pattern.ofSource "a|$" = .ok p ∧
      (∀ s ∈ l.replacedSpans p true, s.stop ≤ h.span.start ∨ h.span.stop ≤ s.start) ∧
      ∃ l', l.replace? p "XY" true = some l' ∧ l'.text = "XYéXY" ∧
        ∃ h' ∈ l'.highlights, h'.span = ⟨2, 6⟩ := by
  intro h l
  have hfound : (Pattern.ofSource "a|$").toOption.map (fun p =>
      (l.replacedSpans p true, (l.replace? p "XY" true).map (·.text))) =
      some ([⟨0, 1⟩, ⟨3, 3⟩], some "XYéXY") := by decide +kernel
  obtain ⟨p, hp, hfound⟩ := Pattern.exists_ofSource hfound
  obtain ⟨hspans, hreplace⟩ := Prod.mk.inj hfound
  obtain ⟨l', hl', htext⟩ := Option.map_eq_some_iff.mp hreplace
  have hapart : ∀ s ∈ l.replacedSpans p true, s.stop ≤ h.span.start ∨ h.span.stop ≤ s.start := by
    rw [hspans]
    decide
  obtain ⟨⟨⟨start, stop⟩, color⟩, hh', -, hstart, hstop, -⟩ :=
    replace_keeps_apart hl' (h := h) List.mem_cons_self (by decide) (by decide) hapart
  have hland : landing (Text.byteLength "XY".toList) (l.replacedSpans p true) 1 = 2 := by
    rw [hspans]
    decide
  have hcount : (l.replacedSpans p true).count ⟨3, 3⟩ * Text.byteLength "XY".toList = 2 := by
    rw [hspans]
    decide
  have hstart' : start = 2 := by
    have hplace : (start : Int) =
        landing (Text.byteLength "XY".toList) (l.replacedSpans p true) 1 := hstart
    omega
  have hstop' : stop = 6 := by
    have hplace : stop = start + (3 - 1) +
        (l.replacedSpans p true).count ⟨3, 3⟩ * Text.byteLength "XY".toList := hstop
    omega
  refine ⟨p, hp, hapart, l', hl', htext, _, hh', ?_⟩
  rw [hstart', hstop']

/-- **At its end a highlight may grow**: where the end of the text is replaced,
a highlight of the whole text takes in the replacement, though the empty
match there does not overlap it. -/
theorem not_replace_keeps_slice :
    ¬ ∀ (l l' : Line) (p : Pattern) (replacement : String) (all : Bool) (h : Highlight),
      h ∈ l.highlights → h.span.start < h.span.stop → h.span.stop ≤ l.byteLength →
      (∀ s ∈ l.replacedSpans p all, s.stop ≤ h.span.start ∨ h.span.stop ≤ s.start) →
      l.replace? p replacement all = some l' →
        ∃ h' ∈ l'.highlights, Text.slice h'.span.start h'.span.stop l'.text.toList =
          Text.slice h.span.start h.span.stop l.text.toList := by
  intro hkeeps
  let h : Highlight := ⟨⟨0, 3⟩, Color.initial⟩
  let l : Line := { ofText "abc" 1 with highlights := [h] }
  have hfound : (Pattern.ofSource "$").toOption.map (fun p =>
      (l.replacedSpans p false, (l.replace? p "X" false).map fun l' => (l'.text, l'.highlights))) =
      some ([⟨3, 3⟩], some ("abcX", [⟨⟨0, 4⟩, Color.initial⟩])) := by decide +kernel
  obtain ⟨p, hp, hfound⟩ := Pattern.exists_ofSource hfound
  obtain ⟨hspans, hreplace⟩ := Prod.mk.inj hfound
  obtain ⟨l', hl', hline⟩ := Option.map_eq_some_iff.mp hreplace
  obtain ⟨htext, hhighlights⟩ := Prod.mk.inj hline
  obtain ⟨h', hh', hslice⟩ := hkeeps l l' p "X" false h List.mem_cons_self (by decide) (by decide)
    (by rw [hspans]; decide) hl'
  rw [hhighlights] at hh'
  obtain rfl := List.mem_singleton.mp hh'
  rw [htext] at hslice
  revert hslice
  decide
end Line

end LogSift
