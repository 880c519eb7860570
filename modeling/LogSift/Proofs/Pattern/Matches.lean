import LogSift.Pattern.Search
import LogSift.Proofs.Text.Boundary
/-!
# What a node matches

A node matches between two places of a text (`Node.Matches`). What it
matches is said by its shape alone: no preference, no captures, and a
repetition is a number of rounds (`Rounds`).
-/


namespace LogSift

namespace Pattern

variable {text pre rest : List Char} {c d e : Cursor} {n m : Nat}

/-! ## Places -/

namespace Cursor

/-- The place between two parts of a text. -/
def between (pre rest : List Char) : Cursor :=
  ⟨pre.getLast?, rest, Text.byteLength pre, rest.length⟩

/-- **A place of a text**, with the character before it. -/
def On (text : List Char) (c : Cursor) : Prop :=
  ∃ pre rest, text = pre ++ rest ∧ c = between pre rest

theorem on_ofText (text : List Char) : (ofText text).On text := ⟨[], text, rfl, rfl⟩

theorem next?_between (pre rest : List Char) (ch : Char) :
    (between pre (ch :: rest)).next? = some (ch, between (pre ++ [ch]) rest) := by
  simp [next?, between, Text.byteLength_append, Text.byteLength_cons, Text.byteLength_nil]

/-- Reading a character leads to the next place of the text. -/
theorem On.next {ch : Char} (h : c.On text) (hnext : c.next? = some (ch, d)) :
    d.On text ∧ d.left + 1 = c.left := by
  obtain ⟨pre, rest, rfl, rfl⟩ := h
  cases rest with
  | nil => cases hnext
  | cons first rest =>
    rw [next?_between] at hnext
    obtain ⟨rfl, rfl⟩ := Prod.mk.inj (Option.some.inj hnext)
    exact ⟨⟨pre ++ [first], rest, by simp, rfl⟩, rfl⟩

theorem On.left_eq (h : c.On text) : c.left = c.rest.length := by
  obtain ⟨pre, rest, rfl, rfl⟩ := h
  rfl

/-- **The number of characters after a place tells which place it is.** -/
theorem On.eq_of_left (hc : c.On text) (hd : d.On text) (h : c.left = d.left) : c = d := by
  obtain ⟨pre, rest, rfl, rfl⟩ := hc
  obtain ⟨pre', rest', heq, rfl⟩ := hd
  obtain ⟨rfl, rfl⟩ := List.append_inj' heq h
  rfl

/-- With nothing before it, it is the start of the text. -/
theorem On.eq_ofText (h : c.On text) (hbefore : c.before = none) : c = ofText text := by
  obtain ⟨pre, rest, rfl, rfl⟩ := h
  obtain rfl := List.getLast?_eq_none_iff.mp hbefore
  rfl

end Cursor

/-! ## Rounds -/

/-- So many steps, one after the other. -/
def Rounds (step : Cursor → Cursor → Prop) : Nat → Cursor → Cursor → Prop
  | 0, c, d => c = d
  | n + 1, c, d => ∃ m, step c m ∧ Rounds step n m d

variable {step step' : Cursor → Cursor → Prop}

theorem rounds_one : Rounds step 1 c d ↔ step c d := by
  simp [Rounds]

/-- Rounds after rounds. -/
theorem rounds_add : Rounds step (n + m) c d ↔ ∃ e, Rounds step n c e ∧ Rounds step m e d := by
  induction n generalizing c with
  | zero => simp [Rounds]
  | succ n ih =>
    rw [Nat.succ_add]
    simp only [Rounds, ih]
    constructor
    · rintro ⟨f, hf, e, hfe, hed⟩
      exact ⟨e, ⟨f, hf, hfe⟩, hed⟩
    · rintro ⟨e, ⟨f, hf, hfe⟩, hed⟩
      exact ⟨f, hf, e, hfe, hed⟩

/-- Any number of rounds is one and any number, or none. -/
theorem exists_rounds_iff : (∃ n, Rounds step n c d) ↔
    (∃ e, step c e ∧ ∃ n, Rounds step n e d) ∨ c = d := by
  constructor
  · rintro ⟨_ | n, hn⟩
    · exact .inr hn
    · obtain ⟨e, hce, hed⟩ := hn
      exact .inl ⟨e, hce, n, hed⟩
  · rintro (⟨e, hce, n, hed⟩ | rfl)
    · exact ⟨n + 1, e, hce, hed⟩
    · exact ⟨0, rfl⟩

theorem rounds_congr (h : ∀ c d, step c d ↔ step' c d) :
    Rounds step n c d ↔ Rounds step' n c d := by
  obtain rfl : step = step' := funext fun c => funext fun d => propext (h c d)
  exact Iff.rfl

/-! ## Nodes -/

namespace Node

/-- **A node matches between two places.** A repetition takes the rounds that
it has to take, and then as many as there is room for. -/
def Matches : Node → Cursor → Cursor → Prop
  | empty, c, d => c = d
  | set s, c, d => ∃ ch, c.next? = some (ch, d) ∧ s.contains ch = true
  | look l, c, d => l.passes c.before c.rest.head? = true ∧ c = d
  | repeated inner least most _, c, d =>
    ∃ n, (∀ m, most = some m → n ≤ m - least) ∧ Rounds inner.Matches (least + n) c d
  | capture _ _ inner, c, d => inner.Matches c d
  | seq first second, c, d => ∃ e, first.Matches c e ∧ second.Matches e d
  | alt first second, c, d => first.Matches c d ∨ second.Matches c d

/-- A repetition takes first the rounds that it has to take. -/
theorem matches_repeated {inner : Node} {least : Nat} {most : Option Nat} {greedy : Bool} :
    (repeated inner least most greedy).Matches c d ↔
      ∃ e, Rounds inner.Matches least c e ∧
        ∃ n, (∀ m, most = some m → n ≤ m - least) ∧ Rounds inner.Matches n e d := by
  simp only [Matches, rounds_add]
  constructor
  · rintro ⟨n, hn, e, hce, hed⟩
    exact ⟨e, hce, n, hn, hed⟩
  · rintro ⟨e, hce, n, hn, hed⟩
    exact ⟨n, hn, e, hce, hed⟩

/-- The empty node adds nothing to a sequence. -/
theorem matches_join {first second : Node} :
    (first.join second).Matches c d ↔ ∃ e, first.Matches c e ∧ second.Matches e d := by
  rw [join]
  split
  · rename_i hfirst
    simp [hfirst, Matches]
  · split
    · rename_i hsecond
      simp [hsecond, Matches]
    · rfl

end Node

end Pattern

end LogSift
