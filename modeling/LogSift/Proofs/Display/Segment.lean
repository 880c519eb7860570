import LogSift.Display.Segment
import LogSift.Proofs.Pattern.Spans
/-!
# Where segments lie

The bounds of a text are boundaries of it and increase, so the segments
between them lie on boundaries and in order (`ofText_inOrder`), whatever
the highlights: joining two segments of one color keeps the outer ends.
-/


namespace LogSift

open Pattern (Span InOrder)

/-- Sorted numbers without repetitions increase. -/
theorem pairwise_lt_eraseDups {xs : List Nat} (h : xs.Pairwise (· ≤ ·)) :
    xs.eraseDups.Pairwise (· < ·) := by
  match xs with
  | [] => simp
  | x :: xs =>
    obtain ⟨hx, hxs⟩ := List.pairwise_cons.mp h
    rw [List.eraseDups_cons]
    refine List.pairwise_cons.mpr ⟨fun y hy => ?_, pairwise_lt_eraseDups (hxs.filter _)⟩
    obtain ⟨hmem, hne⟩ := List.mem_filter.mp (List.mem_eraseDups.mp hy)
    have hle : x ≤ y := hx y hmem
    have hxy : y ≠ x := by simpa using hne
    omega
termination_by xs.length
decreasing_by exact Nat.lt_succ_of_le (List.length_filter_le _ _)

namespace Segment

variable {text : List Char} {hs : List Highlight} {s : Segment} {offset : Nat}

/-- Where a segment lies. -/
def span (s : Segment) : Span := ⟨s.start, s.stop⟩

/-- The bounds of a text are boundaries of it. -/
theorem isBoundary_of_mem_bounds {b : Nat} (hb : b ∈ bounds text hs) :
    Text.isBoundary b text = true := by
  rw [bounds, List.mem_eraseDups, List.mem_mergeSort, List.mem_filter] at hb
  exact hb.2

/-- They increase. -/
theorem bounds_pairwise (text : List Char) (hs : List Highlight) :
    (bounds text hs).Pairwise (· < ·) := by
  have hsorted : ∀ xs : List Nat, xs.mergeSort.Pairwise (· ≤ ·) := by
    intro xs
    have h : xs.mergeSort.Pairwise fun a b => decide (a ≤ b) = true :=
      List.pairwise_mergeSort (fun a b c => by simpa using Nat.le_trans)
        (fun a b => by simpa using Nat.le_total a b) xs
    simpa using h
  exact pairwise_lt_eraseDups (hsorted _)

/-- A segment goes before others that lie behind it, joined or not. -/
theorem add_inOrder {rest : List Segment} (hle : offset ≤ s.start) (hs : s.span.Fits text)
    (hrest : InOrder text s.stop (rest.map span)) : InOrder text offset ((add s rest).map span) := by
  cases rest with
  | nil => exact .cons hle hs hrest
  | cons next rest =>
    rw [add]
    split
    · cases hrest with
      | cons hnext hfits hrest =>
        -- joined: from the start of the one to the stop of the other
        refine .cons hle (Span.fits_of_isBoundary ?_ hs.start hfits.stop) hrest
        exact Nat.le_trans hs.le (Nat.le_trans hnext hfits.le)
    · exact .cons hle hs hrest

/-- The segments between boundaries that increase are in order. -/
theorem between_inOrder (hs : List Highlight) {start : Nat} {bounds : List Nat}
    (hlt : (start :: bounds).Pairwise (· < ·))
    (hbounds : ∀ b ∈ start :: bounds, Text.isBoundary b text = true) :
    InOrder text start ((between hs (start :: bounds)).map span) := by
  induction bounds generalizing start with
  | nil => exact .nil _
  | cons stop bounds ih =>
    obtain ⟨hstart, hrest⟩ := List.pairwise_cons.mp hlt
    rw [between]
    refine add_inOrder (Nat.le_refl _) (Pattern.Span.fits_of_isBoundary ?_ ?_ ?_) ?_
    · exact Nat.le_of_lt (hstart stop List.mem_cons_self)
    · exact hbounds start List.mem_cons_self
    · exact hbounds stop (List.mem_cons_of_mem _ List.mem_cons_self)
    · exact ih hrest fun b hb => hbounds b (List.mem_cons_of_mem _ hb)

/-- **The segments of a text are in order and lie on boundaries**, whatever
the highlights. -/
theorem ofText_inOrder (text : List Char) (hs : List Highlight) :
    InOrder text 0 ((ofText text hs).map span) := by
  have hlt := bounds_pairwise text hs
  have hbounds : ∀ b ∈ bounds text hs, Text.isBoundary b text = true :=
    fun b hb => isBoundary_of_mem_bounds hb
  unfold ofText
  generalize bounds text hs = bs at hlt hbounds
  cases bs with
  | nil => exact .nil _
  | cons start bs => exact (between_inOrder hs hlt hbounds).mono (Nat.zero_le _)

end Segment

end LogSift
