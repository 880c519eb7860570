import LogSift.Proofs.Line.Highlights
import LogSift.Proofs.Text.Encoding
/-!
# Where kept bytes come to lie

A byte outside all spans that are replaced is kept, and each span before
it moves it by what the replacement is longer than the span: `landing`
says where to. The new text has the same byte there
(`exists_landing`), and kept bytes stay in order (`landing_lt_landing`).

The ends of highlights are moved by another rule, which takes the edits
one after the other and adds up as it goes. That rule is right about kept
bytes: a place is at or before such a byte iff where it goes is at or
before the landing (`remap_le_landing_iff`). So nothing that is kept
slips out of a highlight or into it, whatever becomes of the replaced
parts at its ends.
-/


namespace LogSift

open Pattern (Span InOrder)

namespace Line

variable {text cs replacement : List Char} {offset length k pos : Nat} {shift : Int}
variable {spans : List Span} {s : Span}

/-! ## Kept bytes -/

/-- The byte at an offset is kept: it lies in none of the spans. -/
def Kept (spans : List Span) (k : Nat) : Prop := ∀ s ∈ spans, k < s.start ∨ s.stop ≤ k

/-- Where a byte that is kept comes to lie, if each span before it gives way
to a text of some length. -/
def landing (length : Nat) (spans : List Span) (k : Nat) : Int :=
  k + ((spans.filter (·.stop ≤ k)).foldr (fun s moved => moved + length - (s.stop - s.start)) 0 :
    Int)

theorem landing_nil (length k : Nat) : landing length [] k = k := by
  simp [landing]

theorem landing_cons_of_le (h : s.stop ≤ k) :
    landing length (s :: spans) k = landing length spans k + length - (s.stop - s.start) := by
  simp only [landing, List.filter_cons, h, decide_true, if_true, List.foldr_cons]
  omega

theorem landing_cons_of_lt (h : k < s.stop) :
    landing length (s :: spans) k = landing length spans k := by
  have hnot : ¬ s.stop ≤ k := by omega
  simp only [landing, List.filter_cons, hnot, decide_false, Bool.false_eq_true, if_false]

/-- **Before all spans nothing moves.** -/
theorem landing_of_lt (h : InOrder text offset spans) (hk : k < offset) :
    landing length spans k = k := by
  induction h with
  | nil => exact landing_nil length k
  | @cons offset s rest hle hfits _ ih =>
    have hstart : s.start ≤ s.stop := hfits.le
    rw [landing_cons_of_lt (by omega)]
    exact ih (by omega)

/-- A kept byte before a span is before all spans. -/
theorem landing_cons_of_lt_start (h : InOrder text offset (s :: spans)) (hk : k < s.start) :
    landing length (s :: spans) k = k := by
  cases h with
  | cons _ hfits hrest =>
    have hstart : s.start ≤ s.stop := hfits.le
    rw [landing_cons_of_lt (by omega)]
    exact landing_of_lt hrest (by omega)

/-- What starts behind an offset lands behind it. -/
theorem le_landing (h : InOrder text offset spans) (hk : Kept spans k) (hle : offset ≤ k) :
    (offset : Int) ≤ landing length spans k := by
  induction h with
  | nil =>
    rw [landing_nil]
    omega
  | @cons offset s rest hoffset hfits hrest ih =>
    obtain ⟨hs, hrestKept⟩ := List.forall_mem_cons.mp hk
    rcases hs with hbefore | hbehind
    · rw [landing_cons_of_lt_start (.cons hoffset hfits hrest) hbefore]
      omega
    · have hlanding := ih hrestKept hbehind
      rw [landing_cons_of_le hbehind]
      omega

/-- **Kept bytes stay in order.** -/
theorem landing_lt_landing {k' : Nat} (h : InOrder text offset spans) (hk : Kept spans k)
    (hk' : Kept spans k') (hlt : k < k') : landing length spans k < landing length spans k' := by
  induction h with
  | nil =>
    rw [landing_nil, landing_nil]
    omega
  | @cons offset s rest hoffset hfits hrest ih =>
    obtain ⟨hs, hrestKept⟩ := List.forall_mem_cons.mp hk
    obtain ⟨hs', hrestKept'⟩ := List.forall_mem_cons.mp hk'
    have horder : InOrder text offset (s :: rest) := .cons hoffset hfits hrest
    rcases hs with hbefore | hbehind
    · rw [landing_cons_of_lt_start horder hbefore]
      rcases hs' with hbefore' | hbehind'
      · rw [landing_cons_of_lt_start horder hbefore']
        omega
      · -- the span lies between the two
        have hlanding : (s.stop : Int) ≤ landing length rest k' :=
          le_landing hrest hrestKept' hbehind'
        rw [landing_cons_of_le hbehind']
        omega
    · have hlanding := ih hrestKept hrestKept'
      rw [landing_cons_of_le hbehind, landing_cons_of_le (by omega)]
      omega

/-- Bytes in a row that no span overlaps land in a row. -/
theorem landing_of_apart {start stop : Nat}
    (hapart : ∀ s ∈ spans, s.stop ≤ start ∨ stop ≤ s.start) (hfits : ∀ s ∈ spans, s.start ≤ s.stop)
    (hle : start ≤ k) (hlt : k < stop) :
    landing length spans k = landing length spans start + (k - start) := by
  have hsame : spans.filter (·.stop ≤ k) = spans.filter (·.stop ≤ start) := by
    refine List.filter_congr fun s hs => ?_
    have hs' := hfits s hs
    rcases hapart s hs with hbefore | hbehind
    · simp only [hbefore, Nat.le_trans hbefore hle]
    · have hk : ¬ s.stop ≤ k := by omega
      have hstart : ¬ s.stop ≤ start := by omega
      simp only [hk, hstart]
  rw [landing, landing, hsame]
  omega

/-- The offset behind them lands behind the replacement of each empty span
that stands there. -/
theorem landing_stop_of_apart {start stop : Nat}
    (hapart : ∀ s ∈ spans, s.stop ≤ start ∨ stop ≤ s.start) (hfits : ∀ s ∈ spans, s.start ≤ s.stop)
    (hlt : start < stop) :
    landing length spans stop =
      landing length spans start + (stop - start) + spans.count ⟨stop, stop⟩ * length := by
  induction spans with
  | nil =>
    simp only [landing_nil, List.count_nil]
    omega
  | cons s rest ih =>
    obtain ⟨hs, hrestApart⟩ := List.forall_mem_cons.mp hapart
    obtain ⟨hsFits, hrestFits⟩ := List.forall_mem_cons.mp hfits
    have hrest := ih hrestApart hrestFits
    by_cases hempty : s = ⟨stop, stop⟩
    · subst hempty
      rw [landing_cons_of_le (Nat.le_refl stop), landing_cons_of_lt hlt, List.count_cons_self,
        hrest, Int.natCast_add, Int.add_mul]
      dsimp only
      omega
    · rw [List.count_cons_of_ne hempty]
      rcases hs with hbefore | hbehind
      · rw [landing_cons_of_le hbefore, landing_cons_of_le (by omega), hrest]
        omega
      · -- it is not empty at the end, so it ends behind it
        have hbeyond : stop < s.stop := by
          rcases Nat.lt_or_ge stop s.stop with hlt' | hge
          · exact hlt'
          · refine absurd ?_ hempty
            obtain ⟨first, last⟩ := s
            dsimp only at hsFits hbehind hge
            rw [Span.mk.injEq]
            omega
        rw [landing_cons_of_lt hbeyond, landing_cons_of_lt (by omega), hrest]

/-! ## The bytes themselves -/

/-- **The new text has the same byte at the landing.** -/
theorem exists_landing (horder : InOrder text offset spans) (h : Parts offset cs spans)
    (hk : Kept spans (offset + k)) (hlt : k < Text.byteLength cs) (replacement : List Char) :
    ∃ n : Nat, landing (Text.byteLength replacement) spans (offset + k) = offset + n ∧
      (Text.Utf8.encode (String.ofList (splice cs replacement offset spans)))[n]? =
        (Text.Utf8.encode (String.ofList cs))[k]? := by
  induction h generalizing k with
  | nil offset cs =>
    refine ⟨k, ?_, rfl⟩
    rw [landing_nil]
    omega
  | @cons offset kept replaced back rest _ ih =>
    obtain ⟨hs, hrestKept⟩ := List.forall_mem_cons.mp hk
    dsimp only at hs
    have hkept : (Text.Utf8.encode (String.ofList kept)).length = Text.byteLength kept :=
      Text.length_encode kept
    rcases hs with hbefore | hbehind
    · -- in the part that is kept before the span
      refine ⟨k, ?_, ?_⟩
      · rw [landing_cons_of_lt_start horder hbefore]
        omega
      · rw [splice_cons, List.append_assoc, Text.encode_append kept,
          Text.encode_append kept (replaced ++ back), List.getElem?_append_left (by omega),
          List.getElem?_append_left (by omega)]
    · -- as far on behind the replacement as behind the span
      obtain ⟨j, rfl⟩ : ∃ j, k = Text.byteLength kept + Text.byteLength replaced + j :=
        Nat.exists_eq_add_of_le (by omega)
      have hrest :
          InOrder text (offset + Text.byteLength kept + Text.byteLength replaced) rest := by
        cases horder with
        | cons _ _ hrest => exact hrest
      have hplace : offset + (Text.byteLength kept + Text.byteLength replaced + j) =
          offset + Text.byteLength kept + Text.byteLength replaced + j := by omega
      rw [hplace] at hrestKept hbehind ⊢
      obtain ⟨n, hlanding, hbyte⟩ := ih hrest hrestKept (by
        simp only [Text.byteLength_append] at hlt
        omega)
      refine ⟨Text.byteLength (kept ++ replacement) + n, ?_, ?_⟩
      · rw [landing_cons_of_le hbehind, hlanding, Text.byteLength_append]
        dsimp only
        omega
      · have hnew : (Text.Utf8.encode (String.ofList (kept ++ replacement))).length =
            Text.byteLength (kept ++ replacement) := Text.length_encode _
        have hold : (Text.Utf8.encode (String.ofList (kept ++ replaced))).length =
            Text.byteLength kept + Text.byteLength replaced := by
          rw [Text.length_encode, Text.byteLength_append]
        rw [splice_cons, Text.encode_append, List.getElem?_append_right (by omega),
          ← List.append_assoc, Text.encode_append (kept ++ replaced),
          List.getElem?_append_right (by omega), hnew, hold, Nat.add_sub_cancel_left,
          Nat.add_sub_cancel_left, hbyte]

/-- The end of the text goes to the end of the new one. -/
theorem landing_byteLength (h : Parts offset cs spans) (replacement : List Char) :
    landing (Text.byteLength replacement) spans (offset + Text.byteLength cs) =
      offset + Text.byteLength (splice cs replacement offset spans) := by
  induction h with
  | nil offset cs =>
    rw [landing_nil, splice]
    omega
  | @cons offset kept replaced back rest _ ih =>
    have hplace : offset + Text.byteLength (kept ++ (replaced ++ back)) =
        offset + Text.byteLength kept + Text.byteLength replaced + Text.byteLength back := by
      simp only [Text.byteLength_append]
      omega
    rw [hplace, landing_cons_of_le (by dsimp only; omega), ih, splice_cons]
    simp only [Text.byteLength_append]
    omega

/-! ## The rule for ends of highlights -/

/-- Where a place goes among the spans of a text from an offset on, it does
not go before the offset. -/
theorem le_remap (h : InOrder text offset spans) (hle : offset ≤ pos) (isEnd : Bool)
    (length : Nat) (shift : Int) :
    offset + shift ≤ remap isEnd pos shift (spans.map fun s => ⟨s.start, s.stop, length⟩) := by
  induction h generalizing shift with
  | nil =>
    rw [List.map_nil, remap]
    omega
  | @cons offset s rest hoffset hfits _ ih =>
    have hstart : s.start ≤ s.stop := hfits.le
    rw [List.map_cons, remap]
    dsimp only
    by_cases hbehind : s.stop ≤ pos
    · have hrest := ih hbehind (shift + length - (s.stop - s.start : Int))
      rw [if_pos hbehind]
      omega
    · rw [if_neg hbehind]
      by_cases hin : s.start < pos
      · rw [if_pos hin]
        split <;> omega
      · rw [if_neg hin]
        omega

/-- **The rule is right about kept bytes**: a place is at or before such a byte
iff it goes to the landing or before it. -/
theorem remap_le_landing_iff (h : InOrder text offset spans) (hk : Kept spans k) (isEnd : Bool)
    (length pos : Nat) (shift : Int) :
    remap isEnd pos shift (spans.map fun s => ⟨s.start, s.stop, length⟩) ≤
        landing length spans k + shift ↔ pos ≤ k := by
  induction h generalizing shift with
  | nil =>
    rw [List.map_nil, remap, landing_nil]
    omega
  | @cons offset s rest hoffset hfits hrest ih =>
    obtain ⟨hs, hrestKept⟩ := List.forall_mem_cons.mp hk
    have horder : InOrder text offset (s :: rest) := .cons hoffset hfits hrest
    have hstart : s.start ≤ s.stop := hfits.le
    rw [List.map_cons, remap]
    dsimp only
    rcases hs with hbefore | hbehind
    · -- the byte is before the span and stays where it is
      rw [landing_cons_of_lt_start horder hbefore]
      by_cases hpos : s.stop ≤ pos
      · have hplace := le_remap hrest hpos isEnd length (shift + length - (s.stop - s.start : Int))
        rw [if_pos hpos]
        omega
      · rw [if_neg hpos]
        by_cases hin : s.start < pos
        · rw [if_pos hin]
          split <;> omega
        · rw [if_neg hin]
          omega
    · -- the byte is behind the span and lands behind the replacement
      have hlanding : (s.stop : Int) ≤ landing length rest k := le_landing hrest hrestKept hbehind
      rw [landing_cons_of_le hbehind]
      by_cases hpos : s.stop ≤ pos
      · have hplace := ih hrestKept (shift + length - (s.stop - s.start : Int))
        rw [if_pos hpos, ← hplace]
        omega
      · rw [if_neg hpos]
        by_cases hin : s.start < pos
        · rw [if_pos hin]
          split <;> omega
        · rw [if_neg hin]
          omega

/-- **A place that is in no span goes where a byte would land.** -/
theorem remap_eq_landing (h : InOrder text offset spans)
    (hpos : ∀ s ∈ spans, pos ≤ s.start ∨ s.stop ≤ pos) (isEnd : Bool) (length : Nat)
    (shift : Int) :
    remap isEnd pos shift (spans.map fun s => ⟨s.start, s.stop, length⟩) =
      landing length spans pos + shift := by
  induction h generalizing shift with
  | nil =>
    rw [List.map_nil, remap, landing_nil]
  | @cons offset s rest hoffset hfits hrest ih =>
    obtain ⟨hs, hrestPos⟩ := List.forall_mem_cons.mp hpos
    have hstart : s.start ≤ s.stop := hfits.le
    rw [List.map_cons, remap]
    dsimp only
    by_cases hbehind : s.stop ≤ pos
    · rw [if_pos hbehind, ih hrestPos, landing_cons_of_le hbehind]
      omega
    · rw [if_neg hbehind, if_neg (by omega), landing_cons_of_lt (by omega),
        landing_of_lt hrest (by omega)]

/-- So a place in the text goes to one in the new text. -/
theorem exists_remap_eq (horder : InOrder text 0 spans) (h : Parts 0 cs spans)
    (hle : pos ≤ Text.byteLength cs) (hspans : ∀ s ∈ spans, s.stop ≤ Text.byteLength cs)
    (isEnd : Bool) (replacement : List Char) :
    ∃ n : Nat, n ≤ Text.byteLength (splice cs replacement 0 spans) ∧
      remap isEnd pos 0
        (spans.map fun s => ⟨s.start, s.stop, Text.byteLength replacement⟩) = n := by
  have hlower := le_remap horder (Nat.zero_le pos) isEnd (Text.byteLength replacement) 0
  have hupper := (remap_le_landing_iff horder (fun s hs => Or.inr (hspans s hs)) isEnd
    (Text.byteLength replacement) pos 0).mpr hle
  have hend := landing_byteLength h replacement
  rw [Nat.zero_add] at hend
  rw [hend] at hupper
  exact ⟨_, by omega, (Int.toNat_of_nonneg (by omega)).symm⟩

end Line

end LogSift
