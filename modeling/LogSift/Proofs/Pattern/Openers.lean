import Mathlib.Data.List.Basic
import Mathlib.Tactic.SplitIfs
import LogSift.Pattern.Rejection
import LogSift.Proofs.Text.Boundary
/-!
# Delimiters that are gone through plainly

The place of an unclosed delimiter is looked for by going through the source
once for each kind of delimiter, whatever the delimiters are to the reader.
What that leaves open is told by the parts of a source: a part that closes
what it opens changes nothing (`LeavesOpen.append`), a single character adds
its place or takes the last one away (`LeavesOpen.push`), and what is opened
behind the last part comes after what is open before it
(`LeavesOpen.unclosed?_eq`).
-/


namespace LogSift

namespace Pattern

namespace Rejection

open Text (byteLength)

variable {opener closer c : Char} {text front : List Char} {waiting : List Nat}
variable {n : Nat} {escaped escaped' : Bool}

/-! ## Parts of a text -/

/-- How many delimiters a text leaves open, if so many are open before it, and whether a
backslash waits for a character there. If others are open `around` it, none of those may be
closed; if there are none, to close one does nothing. -/
def openBehind? (opener closer : Char) (around : Bool) (depth : Nat) (escaped : Bool) :
    List Char → Option (Nat × Bool)
  | [] => some (depth, escaped)
  | c :: rest =>
    if escaped then openBehind? opener closer around depth false rest
    else if c = '\\' then openBehind? opener closer around depth true rest
    else if c = opener then openBehind? opener closer around (depth + 1) false rest
    else if c = closer then
      if depth = 0 && around then none
      else openBehind? opener closer around (depth - 1) false rest
    else openBehind? opener closer around depth false rest

/-- Going through a text replaces the places that belong to it and leaves those that wait. -/
theorem exists_unclosed?_append (places : List Nat)
    (h : openBehind? opener closer (!waiting.isEmpty) places.length escaped text =
      some (n, escaped')) (offset : Nat) :
    ∃ places' : List Nat, places'.length = n ∧ ∀ more,
      unclosed? opener closer (places ++ waiting) escaped offset (text ++ more) =
        unclosed? opener closer (places' ++ waiting) escaped' (offset + byteLength text) more := by
  induction text generalizing places escaped offset with
  | nil =>
    obtain ⟨rfl, rfl⟩ := Prod.mk.inj (Option.some.inj h)
    exact ⟨places, rfl, fun more => rfl⟩
  | cons c text ih =>
    have hoffset : offset + byteLength (c :: text) = offset + c.utf8Size + byteLength text := by
      rw [Text.byteLength_cons, Nat.add_assoc]
    simp only [List.cons_append, unclosed?, hoffset]
    rw [openBehind?] at h
    split_ifs at h ⊢
    · exact ih places h _
    · exact ih places h _
    · exact ih (offset :: places) h _
    · rename_i hclosed
      cases places with
      | nil =>
        -- nothing is open here, so nothing is closed
        cases waiting with
        | nil => exact ih [] h _
        | cons place waiting => exact absurd rfl hclosed
      | cons place places => exact ih places h _
    · exact ih places h _

/-! ## What is left open -/

/-- **Gone through from its start, a source has delimiters open behind `front`** that stand at the
places that wait, the innermost first. -/
def LeavesOpen (opener closer : Char) (front : List Char) (waiting : List Nat) : Prop :=
  ∀ more, unclosed? opener closer [] false 0 (front ++ more) =
    unclosed? opener closer waiting false (byteLength front) more

namespace LeavesOpen

theorem nil : LeavesOpen opener closer [] [] := fun _ => rfl

/-- A text that closes what it opens changes nothing. -/
theorem append (h : LeavesOpen opener closer front waiting)
    (htext : openBehind? opener closer (!waiting.isEmpty) 0 false text = some (0, false)) :
    LeavesOpen opener closer (front ++ text) waiting := by
  intro more
  obtain ⟨places, hplaces, hthrough⟩ :=
    exists_unclosed?_append [] htext (byteLength front)
  obtain rfl := List.eq_nil_of_length_eq_zero hplaces
  rw [List.append_assoc, h, Text.byteLength_append]
  exact hthrough more

/-- One character more. -/
theorem push (h : LeavesOpen opener closer front waiting) (hc : c ≠ '\\') :
    LeavesOpen opener closer (front ++ [c]) (if c = opener then byteLength front :: waiting
      else if c = closer then waiting.tail else waiting) := by
  intro more
  rw [List.append_assoc, h, Text.byteLength_append, Text.byteLength_cons, Text.byteLength_nil,
    Nat.add_zero, List.singleton_append, unclosed?, if_neg Bool.false_ne_true, if_neg hc]
  split_ifs <;> rfl

/-- **A text does not change which delimiter is the first one open**, if it closes none of those
before it, or if there is none and it leaves none open. -/
theorem unclosed?_eq (h : LeavesOpen opener closer front waiting)
    (htext : openBehind? opener closer (!waiting.isEmpty) 0 false text = some (n, escaped))
    (hopen : waiting ≠ [] ∨ n = 0) :
    unclosed? opener closer [] false 0 (front ++ text) = waiting.getLast? := by
  obtain ⟨places, hplaces, hthrough⟩ :=
    exists_unclosed?_append [] htext (byteLength front)
  have hend := hthrough []
  rw [List.append_nil, List.nil_append] at hend
  rw [h, hend, unclosed?]
  rcases hopen with hne | rfl
  · exact List.getLast?_append_of_ne_nil _ hne
  · rw [List.eq_nil_of_length_eq_zero hplaces, List.nil_append]

end LeavesOpen

end Rejection

end Pattern

end LogSift
