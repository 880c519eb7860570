import Mathlib.Data.List.Pairwise
import LogSift.Proofs.Display.Segment
import LogSift.Proofs.Line.Covering
/-!
# What segments show

The segments of a text lie one right behind another from its start to its
end (`tiles_ofText`), so that what they show, put together, is the text.
A segment is made of pieces between bounds that are next to each other.
Where the ends of the highlights are bounds, none lies within such a
piece, so a highlight covers all of it or nothing of it, and the color of
the piece is that of each of its bytes (`colorOf_eq_colorAt`).
-/


namespace LogSift

instance (h : Highlight) (k : Nat) : Decidable (h.Covers k) :=
  inferInstanceAs (Decidable (h.span.start ≤ k ∧ k < h.span.stop))

namespace Segment

variable {text : List Char} {hs : List Highlight} {s : Segment} {segs : List Segment}
  {first last start stop b : Nat}

/-! ## One behind another -/

/-- **Segments tile the bytes from one offset to another**: none is empty,
and each starts where the one before it stops. -/
inductive Tiles : Nat → Nat → List Segment → Prop
  | nil (n : Nat) : Tiles n n []
  | cons {s : Segment} {last : Nat} {rest : List Segment} :
      s.start < s.stop → Tiles s.stop last rest → Tiles s.start last (s :: rest)

theorem Tiles.le (h : Tiles first last segs) : first ≤ last := by
  induction h with
  | nil => exact Nat.le_refl _
  | cons hlt _ ih => omega

/-- None of them is empty or ends behind all. -/
theorem Tiles.mem (h : Tiles first last segs) (hs : s ∈ segs) :
    s.start < s.stop ∧ s.stop ≤ last := by
  induction h with
  | nil => cases hs
  | cons hlt hrest ih =>
    rcases List.mem_cons.mp hs with rfl | hs
    · exact ⟨hlt, hrest.le⟩
    · exact ih hs

/-- Each byte is in one of them. -/
theorem Tiles.exists_mem (h : Tiles first last segs) (hfirst : first ≤ b) (hlast : b < last) :
    ∃ s ∈ segs, s.start ≤ b ∧ b < s.stop := by
  induction h with
  | nil => omega
  | @cons s last rest _ _ ih =>
    by_cases hb : b < s.stop
    · exact ⟨s, List.mem_cons_self, hfirst, hb⟩
    · obtain ⟨t, ht, hbt⟩ := ih (by omega) hlast
      exact ⟨t, List.mem_cons_of_mem s ht, hbt⟩

/-- **What they show, put together, is all of the text between the offsets**,
if the text can be cut at the ends of each. -/
theorem Tiles.flatMap_slice (h : Tiles first last segs)
    (hfirst : Text.isBoundary first text = true) (hlast : Text.isBoundary last text = true)
    (hstop : ∀ s ∈ segs, Text.isBoundary s.stop text = true) :
    segs.flatMap (fun s => Text.slice s.start s.stop text) = Text.slice first last text := by
  induction h with
  | nil n => rw [List.flatMap_nil, Text.slice_self]
  | @cons s last rest hlt hrest ih =>
    have hmid : Text.isBoundary s.stop text = true := hstop s List.mem_cons_self
    rw [List.flatMap_cons, ih hmid hlast fun t ht => hstop t (List.mem_cons_of_mem s ht),
      Text.slice_append_slice hfirst hmid hlast (Nat.le_of_lt hlt) hrest.le]

/-- A segment goes before others that start where it stops, joined or not. -/
theorem Tiles.add (hlt : s.start < s.stop) (hrest : Tiles s.stop last segs) :
    Tiles s.start last (Segment.add s segs) := by
  generalize hmid : s.stop = mid at hrest
  cases hrest with
  | nil => exact .cons hlt (hmid ▸ .nil _)
  | @cons next _ rest hnext hrest =>
    rw [Segment.add]
    split
    · have hjoined : s.start < next.stop := by omega
      exact .cons (s := ⟨s.start, next.stop, s.color⟩) hjoined hrest
    · exact .cons hlt (hmid ▸ .cons hnext hrest)

/-- The segments between bounds that increase tile the bytes from the first
bound to the last. -/
theorem tiles_between (hs : List Highlight) {bounds : List Nat}
    (hlt : (start :: bounds).Pairwise (· < ·)) :
    Tiles start ((start :: bounds).getLast (by simp)) (between hs (start :: bounds)) := by
  induction bounds generalizing start with
  | nil => exact .nil start
  | cons stop bounds ih =>
    obtain ⟨hstart, hrest⟩ := List.pairwise_cons.mp hlt
    rw [between, List.getLast_cons (by simp)]
    exact Tiles.add (s := ⟨start, stop, colorOf hs start stop⟩)
      (hstart stop List.mem_cons_self) (ih hrest)

/-! ## Bounds -/

theorem mem_bounds : b ∈ bounds text hs ↔
    (b = 0 ∨ b = Text.byteLength text ∨ ∃ h ∈ hs,
      b = min h.span.start (Text.byteLength text) ∨ b = min h.span.stop (Text.byteLength text)) ∧
      Text.isBoundary b text = true := by
  rw [bounds, List.mem_eraseDups, List.mem_mergeSort, List.mem_filter]
  simp only [List.mem_cons, List.mem_flatMap, List.not_mem_nil, or_false]

/-- The bounds of a text go from its start to its end. -/
theorem exists_bounds_eq (text : List Char) (hs : List Highlight) :
    ∃ rest, bounds text hs = 0 :: rest ∧
      (0 :: rest).getLast (by simp) = Text.byteLength text := by
  have hlt := bounds_pairwise text hs
  have hzero : 0 ∈ bounds text hs := mem_bounds.mpr ⟨.inl rfl, Text.isBoundary_zero text⟩
  have hlength : Text.byteLength text ∈ bounds text hs :=
    mem_bounds.mpr ⟨.inr (.inl rfl), Text.isBoundary_byteLength text⟩
  have hle : ∀ b ∈ bounds text hs, b ≤ Text.byteLength text := fun b hb =>
    Text.le_byteLength_of_isBoundary (isBoundary_of_mem_bounds hb)
  rcases hbounds : bounds text hs with _ | ⟨b, rest⟩
  · simp [hbounds] at hzero
  · rw [hbounds] at hlt hzero hlength hle
    obtain rfl : b = 0 := by
      rcases List.mem_cons.mp hzero with hb | hzero
      · exact hb.symm
      · exact absurd ((List.pairwise_cons.mp hlt).1 0 hzero) (Nat.not_lt_zero b)
    exact ⟨rest, rfl, Nat.le_antisymm (hle _ (List.getLast_mem _))
      ((hlt.imp Nat.le_of_lt).rel_getLast hlength)⟩

/-- **The segments of a text tile it.** -/
theorem tiles_ofText (text : List Char) (hs : List Highlight) :
    Tiles 0 (Text.byteLength text) (ofText text hs) := by
  obtain ⟨rest, hbounds, hlast⟩ := exists_bounds_eq text hs
  have hlt := bounds_pairwise text hs
  rw [hbounds] at hlt
  rw [ofText, hbounds, ← hlast]
  exact tiles_between hs hlt

/-! ## Colors -/

/-- Segments next to each other have different colors. -/
def Parted (segs : List Segment) : Prop := segs.IsChain fun s t => s.color ≠ t.color

/-- A segment is joined to the next one if it has its color. -/
theorem Parted.add (h : Parted segs) (s : Segment) : Parted (Segment.add s segs) := by
  cases segs with
  | nil => exact .singleton s
  | cons next rest =>
    rw [Segment.add]
    split
    · rename_i hcolor
      cases rest with
      | nil => exact .singleton _
      | cons t rest =>
        obtain ⟨hne, hrest⟩ := List.isChain_cons_cons.mp h
        exact List.isChain_cons_cons.mpr ⟨hcolor ▸ hne, hrest⟩
    · rename_i hcolor
      exact List.isChain_cons_cons.mpr ⟨hcolor, h⟩

theorem parted_between (hs : List Highlight) (bounds : List Nat) :
    Parted (between hs bounds) := by
  fun_induction between hs bounds with
  | case1 start stop rest ih => exact ih.add _
  | case2 => exact .nil

/-- The color of a byte: that of the last highlight that covers it. -/
def colorAt (hs : List Highlight) (b : Nat) : Option Color :=
  (hs.filter (·.Covers b)).getLast?.map (·.color)

/-- **A piece has the color of its bytes**, if no end of a highlight lies
within it. -/
theorem colorOf_eq_colorAt
    (hapart : ∀ h ∈ hs, (h.span.start ≤ start ∨ stop ≤ h.span.start) ∧
      (h.span.stop ≤ start ∨ stop ≤ h.span.stop))
    (hfirst : start ≤ b) (hlast : b < stop) : colorOf hs start stop = colorAt hs b := by
  have hfilter : (hs.filter fun h => h.span.start ≤ start && stop ≤ h.span.stop) =
      hs.filter (·.Covers b) := by
    refine List.filter_congr fun h hh => ?_
    have hends := hapart h hh
    rw [← Bool.decide_and, decide_eq_decide, Highlight.Covers]
    omega
  rw [colorOf, colorAt, ← List.head?_filter, List.filter_reverse, List.head?_reverse, hfilter]

/-- The segments a piece is put before keep the colors of their bytes. -/
theorem add_color {color : Nat → Option Color}
    (hs : ∀ b, s.start ≤ b → b < s.stop → s.color = color b)
    (hsegs : ∀ t ∈ segs, ∀ b, t.start ≤ b → b < t.stop → t.color = color b)
    (htiles : Tiles s.stop last segs) :
    ∀ t ∈ Segment.add s segs, ∀ b, t.start ≤ b → b < t.stop → t.color = color b := by
  generalize hmid : s.stop = mid at htiles
  cases htiles with
  | nil =>
    intro t ht
    obtain rfl := List.mem_singleton.mp ht
    exact hs
  | @cons next _ rest _ _ =>
    rw [Segment.add]
    split
    · rename_i hcolor
      intro t ht b hfirst hlast
      rcases List.mem_cons.mp ht with rfl | ht
      · -- a byte of the joined segment is in one of the two
        by_cases hb : b < s.stop
        · exact hs b hfirst hb
        · exact hcolor.trans (hsegs next List.mem_cons_self b (by omega) hlast)
      · exact hsegs t (List.mem_cons_of_mem next ht) b hfirst hlast
    · intro t ht
      rcases List.mem_cons.mp ht with rfl | ht
      · exact hs
      · exact hsegs t ht

/-- **Segments have the colors of their bytes**, where the ends of all
highlights are bounds or lie before them. -/
theorem between_color {bounds : List Nat} (hlt : (start :: bounds).Pairwise (· < ·))
    (hends : ∀ h ∈ hs, (start ≤ h.span.start → h.span.start ∈ start :: bounds) ∧
      (start ≤ h.span.stop → h.span.stop ∈ start :: bounds)) :
    ∀ s ∈ between hs (start :: bounds), ∀ b, s.start ≤ b → b < s.stop →
      s.color = colorAt hs b := by
  induction bounds generalizing start with
  | nil => simp [between]
  | cons stop bounds ih =>
    obtain ⟨hstart, hrest⟩ := List.pairwise_cons.mp hlt
    have hnext := hstart stop List.mem_cons_self
    -- an end that is a bound is the first one, or at least the second
    have hbehind : ∀ e, (start ≤ e → e ∈ start :: stop :: bounds) →
        (e ≤ start ∨ stop ≤ e) ∧ (stop ≤ e → e ∈ stop :: bounds) := by
      intro e he
      by_cases hle : start ≤ e
      · rcases List.mem_cons.mp (he hle) with rfl | hmem
        · exact ⟨.inl (Nat.le_refl e), fun h => by omega⟩
        · refine ⟨.inr ?_, fun _ => hmem⟩
          rcases List.mem_cons.mp hmem with rfl | hmem
          · exact Nat.le_refl e
          · exact Nat.le_of_lt ((List.pairwise_cons.mp hrest).1 e hmem)
      · exact ⟨.inl (by omega), fun h => by omega⟩
    rw [between]
    refine add_color (fun b hfirst hlast => ?_) (ih hrest fun h hh => ?_) (tiles_between hs hrest)
    · refine colorOf_eq_colorAt (fun h hh => ?_) hfirst hlast
      exact ⟨(hbehind _ (hends h hh).1).1, (hbehind _ (hends h hh).2).1⟩
    · exact ⟨(hbehind _ (hends h hh).1).2, (hbehind _ (hends h hh).2).2⟩

/-- **The segments of a text are exact.** Whatever the highlights, no segment
is empty, each starts where the one before it stops, and both of its ends
are boundaries; what they show, put together, is the text; and two that
follow each other differ in color. If the ends of all highlights are
boundaries, each byte is in a segment, which has the color of the last
highlight that covers the byte. -/
theorem ofText_exact (text : List Char) (hs : List Highlight) :
    let segs := ofText text hs
    Tiles 0 (Text.byteLength text) segs ∧
      (∀ s ∈ segs, s.start < s.stop ∧ Text.isBoundary s.start text = true ∧
        Text.isBoundary s.stop text = true) ∧
      segs.flatMap (fun s => Text.slice s.start s.stop text) = text ∧
      segs.IsChain (fun s t => s.color ≠ t.color) ∧
      ((∀ h ∈ hs, Text.isBoundary h.span.start text = true ∧
          Text.isBoundary h.span.stop text = true) →
        ∀ b < Text.byteLength text, (∃ s ∈ segs, s.start ≤ b ∧ b < s.stop) ∧
          ∀ s ∈ segs, s.start ≤ b → b < s.stop → s.color = colorAt hs b) := by
  intro segs
  have htiles : Tiles 0 (Text.byteLength text) segs := tiles_ofText text hs
  have hfits : ∀ s ∈ segs, s.span.Fits text := fun s hs' =>
    (ofText_inOrder text hs).fits s.span (List.mem_map_of_mem hs')
  refine ⟨htiles, fun s hs' => ?_, ?_, parted_between hs _, fun hends b hb => ?_⟩
  · exact ⟨(htiles.mem hs').1, (hfits s hs').start, (hfits s hs').stop⟩
  · rw [htiles.flatMap_slice (Text.isBoundary_zero text) (Text.isBoundary_byteLength text)
      fun s hs' => (hfits s hs').stop]
    exact Text.slice_zero_byteLength text
  · refine ⟨htiles.exists_mem (Nat.zero_le b) hb, fun s hs' hfirst hlast => ?_⟩
    obtain ⟨rest, hbounds, -⟩ := exists_bounds_eq text hs
    have hlt := bounds_pairwise text hs
    have hmem : ∀ h ∈ hs, h.span.start ∈ bounds text hs ∧ h.span.stop ∈ bounds text hs := by
      intro h hh
      obtain ⟨hstart, hstop⟩ := hends h hh
      have hstartLe := Text.le_byteLength_of_isBoundary hstart
      have hstopLe := Text.le_byteLength_of_isBoundary hstop
      exact ⟨mem_bounds.mpr ⟨.inr (.inr ⟨h, hh, .inl (by omega)⟩), hstart⟩,
        mem_bounds.mpr ⟨.inr (.inr ⟨h, hh, .inr (by omega)⟩), hstop⟩⟩
    rw [hbounds] at hlt hmem
    have hcolor := between_color hlt fun h hh =>
      ⟨fun _ => (hmem h hh).1, fun _ => (hmem h hh).2⟩
    rw [← hbounds] at hcolor
    exact hcolor s hs' b hfirst hlast

/-- Where one highlight lies within another that was set before it, its
color shows, also on the second byte of a character. -/
theorem ofText_exact_of_nested :
    let text := "aéb".toList
    let hs : List Highlight := [⟨⟨0, 4⟩, ⟨255, 0, 0⟩⟩, ⟨⟨1, 3⟩, ⟨0, 0, 255⟩⟩]
    (∀ h ∈ hs, Text.isBoundary h.span.start text = true ∧
        Text.isBoundary h.span.stop text = true) ∧
      2 < Text.byteLength text ∧
      ∃ s ∈ ofText text hs, s.start ≤ 2 ∧ 2 < s.stop ∧ s.color = some ⟨0, 0, 255⟩ := by
  intro text hs
  have hends : ∀ h ∈ hs, Text.isBoundary h.span.start text = true ∧
      Text.isBoundary h.span.stop text = true := by decide
  have hlt : 2 < Text.byteLength text := by decide
  obtain ⟨-, -, -, -, hbytes⟩ := ofText_exact text hs
  obtain ⟨⟨s, hs', hfirst, hlast⟩, hcolor⟩ := hbytes hends 2 hlt
  have hblue : colorAt hs 2 = some ⟨0, 0, 255⟩ := by decide
  exact ⟨hends, hlt, s, hs', hfirst, hlast, (hcolor s hs' hfirst hlast).trans hblue⟩

end Segment

end LogSift
