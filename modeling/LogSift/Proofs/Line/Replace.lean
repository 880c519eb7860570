import LogSift.Line
import LogSift.Proofs.Pattern.Spans
/-!
# Replacing spans of a text

Spans in order cut a text into parts: one kept, one replaced, and so on
up to a kept rest. `Parts` says so without offsets of the whole text, and
what is proved of a replacement goes along it. The new text is the kept
parts joined by the replacement (`splice_eq_intercalate`), and a boundary
of the old text goes to one of the new text: what the edits before it
have added and taken away puts it at the same place between the same
characters, or at an edge of a replacement (`remap_boundary`).
-/


namespace LogSift

open Pattern (Span InOrder)

namespace Line

variable {text cs replacement : List Char} {offset k : Nat} {spans : List Span}

/-! ## Parts of a text -/

/-- The spans cut a text that starts at an offset into parts, kept and
replaced in turn. -/
inductive Parts : Nat → List Char → List Span → Prop
  | nil (offset : Nat) (cs : List Char) : Parts offset cs []
  | cons {offset : Nat} (kept replaced : List Char) {back : List Char} {rest : List Span} :
      Parts (offset + Text.byteLength kept + Text.byteLength replaced) back rest →
      Parts offset (kept ++ (replaced ++ back))
        (⟨offset + Text.byteLength kept,
          offset + Text.byteLength kept + Text.byteLength replaced⟩ :: rest)

/-- **Spans in order cut a text into parts.** -/
theorem Parts.of_inOrder (pre : List Char)
    (h : InOrder (pre ++ cs) (Text.byteLength pre) spans) :
    Parts (Text.byteLength pre) cs spans := by
  induction spans generalizing pre cs with
  | nil => exact .nil _ _
  | cons s rest ih =>
    obtain ⟨start, stop⟩ := s
    cases h with
    | cons hle hfits hrest =>
      -- cut the rest at the start of the span, and what follows at its stop
      obtain ⟨kept, back, rfl, rfl⟩ := Text.exists_split_of_isBoundary hfits.start hle
      have hstop := hfits.stop
      rw [← List.append_assoc] at hstop
      obtain ⟨replaced, back, rfl, rfl⟩ := Text.exists_split_of_isBoundary hstop
        (by rw [Text.byteLength_append]; exact hfits.le)
      rw [Text.byteLength_append] at hrest ⊢
      refine .cons kept replaced ?_
      rw [← Text.byteLength_append, ← Text.byteLength_append] at hrest ⊢
      rw [← List.append_assoc, ← List.append_assoc] at hrest
      exact ih _ (by simpa only [List.append_assoc] using hrest)

/-- The first part is kept, the second gives way to the replacement. -/
theorem splice_cons (offset : Nat) (kept replaced back replacement : List Char)
    (rest : List Span) :
    splice (kept ++ (replaced ++ back)) replacement offset
        (⟨offset + Text.byteLength kept,
          offset + Text.byteLength kept + Text.byteLength replaced⟩ :: rest) =
      kept ++ replacement ++
        splice back replacement (offset + Text.byteLength kept + Text.byteLength replaced) rest := by
  rw [splice]
  simp only [Nat.add_sub_cancel_left, Text.splitBytes_append]

/-! ## Kept parts -/

/-- The spans between some spans, from an offset up to the end of the
text. -/
def gaps (length offset : Nat) : List Span → List Span
  | [] => [⟨offset, length⟩]
  | s :: rest => ⟨offset, s.start⟩ :: gaps length s.stop rest

/-- **The kept spans are in order**, up to the end of the text. -/
theorem gaps_inOrder (h : InOrder text offset spans) (hoffset : Text.isBoundary offset text = true) :
    InOrder text offset (gaps (Text.byteLength text) offset spans) := by
  induction h with
  | nil offset =>
    exact .cons (Nat.le_refl _) (Pattern.Span.fits_of_isBoundary
      (Text.le_byteLength_of_isBoundary hoffset) hoffset (Text.isBoundary_byteLength text)) (.nil _)
  | cons hle hfits _ ih =>
    exact .cons (Nat.le_refl _) (Pattern.Span.fits_of_isBoundary hle hoffset hfits.start)
      ((ih hfits.stop).mono hfits.le)

/-- **The text with spans replaced is what is kept**, joined by the
replacement. -/
theorem splice_eq_intercalate (h : Parts offset cs spans) (pre : List Char)
    (hoffset : offset = Text.byteLength pre) :
    splice cs replacement offset spans =
      replacement.intercalate
        ((gaps (Text.byteLength (pre ++ cs)) offset spans).map fun g =>
          Text.slice g.start g.stop (pre ++ cs)) := by
  induction h generalizing pre with
  | nil offset cs =>
    have hslice := Text.slice_append pre cs []
    rw [List.append_nil] at hslice
    rw [splice, gaps, List.map_singleton, List.intercalate_singleton, hoffset,
      Text.byteLength_append, hslice]
  | @cons offset kept replaced back rest _ ih =>
    have hpre : offset + Text.byteLength kept + Text.byteLength replaced =
        Text.byteLength (pre ++ kept ++ replaced) := by
      rw [Text.byteLength_append, Text.byteLength_append, hoffset]
    have hne : gaps (Text.byteLength (pre ++ (kept ++ (replaced ++ back))))
        (offset + Text.byteLength kept + Text.byteLength replaced) rest ≠ [] := by
      cases rest <;> simp [gaps]
    have hslice : Text.slice offset (offset + Text.byteLength kept)
        (pre ++ (kept ++ (replaced ++ back))) = kept := by
      rw [hoffset, ← List.append_assoc, Text.slice_append]
    rw [splice_cons, gaps, List.map_cons, List.intercalate_cons_of_ne_nil (by simpa using hne),
      hslice, ih _ hpre]
    simp only [List.append_assoc]

/-! ## Boundaries -/

/-- **A boundary goes to a boundary.** Of a text that starts at an offset
and has `shift` bytes more before it than there were, a boundary comes to
lie where it was between its characters, or at an edge of the replacement
of the part it was in. -/
theorem remap_boundary (h : Parts offset cs spans) (hk : Text.isBoundary k cs = true)
    (isEnd : Bool) (shift : Int) (replacement : List Char) :
    ∃ n : Nat, remap isEnd (offset + k) shift
        (spans.map fun s => ⟨s.start, s.stop, Text.byteLength replacement⟩) = offset + shift + n ∧
      Text.isBoundary n (splice cs replacement offset spans) = true := by
  induction h generalizing k shift with
  | nil offset cs =>
    refine ⟨k, ?_, hk⟩
    rw [List.map_nil, remap]
    omega
  | @cons offset kept replaced back rest _ ih =>
    rw [splice_cons, List.map_cons, remap]
    dsimp only
    by_cases hafter : Text.byteLength kept + Text.byteLength replaced ≤ k
    · -- behind the part: as far on in what follows it
      obtain ⟨j, rfl⟩ := Nat.exists_eq_add_of_le hafter
      have hj : Text.isBoundary j back = true := by
        rw [← List.append_assoc, ← Text.byteLength_append] at hk
        exact Text.isBoundary_of_append_right hk
      obtain ⟨n, hn, hboundary⟩ := ih hj
        (shift + Text.byteLength replacement - Text.byteLength replaced)
      refine ⟨Text.byteLength (kept ++ replacement) + n, ?_,
        Text.isBoundary_append_right hboundary _⟩
      have hpos : offset + (Text.byteLength kept + Text.byteLength replaced + j) =
          offset + Text.byteLength kept + Text.byteLength replaced + j := by omega
      have hshift : shift + Text.byteLength replacement -
          (↑(offset + Text.byteLength kept + Text.byteLength replaced) -
            ↑(offset + Text.byteLength kept)) =
          shift + Text.byteLength replacement - Text.byteLength replaced := by omega
      rw [if_pos (by omega), hpos, hshift, hn, Text.byteLength_append]
      omega
    · rw [if_neg (by omega)]
      by_cases hin : Text.byteLength kept < k
      · -- within it: an end goes to the back of the replacement, a start to the front
        rw [if_pos (by omega)]
        cases isEnd with
        | true =>
          refine ⟨Text.byteLength (kept ++ replacement), ?_,
            Text.isBoundary_append_left (Text.isBoundary_byteLength _) _⟩
          rw [if_pos rfl, Text.byteLength_append]
          omega
        | false =>
          refine ⟨Text.byteLength kept, ?_, ?_⟩
          · rw [if_neg Bool.false_ne_true]
            omega
          · rw [List.append_assoc]
            exact Text.isBoundary_append_left (Text.isBoundary_byteLength _) _
      · -- before it: where it was
        rw [if_neg (by omega)]
        refine ⟨k, by omega, ?_⟩
        rw [List.append_assoc]
        exact Text.isBoundary_append_left (Text.isBoundary_of_append hk (by omega)) _

end Line

end LogSift
