import LogSift.Pattern
import LogSift.Proofs.Text.Boundary
/-!
# Where matches lie

A search moves along the text it searches: what has been read stands
before its place, so the offset of the place is a boundary (`Cursor.At`).
A thread starts there, goes on by reading characters, and notes nothing
but offsets it has been at (`Thread.Within`). So the span of a match and
the spans of its groups lie on boundaries (`isBoundary_of_mem_spans`), and the
matches of a text come in order and do not overlap
(`allMatches_inOrder`), empty ones included.
-/


namespace LogSift

namespace Pattern

variable {text : List Char} {start offset : Nat}

/-! ## Spans of a text -/

/-- **A span fits a text** if it lies in the text and the text can be cut at
both of its ends. -/
structure Span.Fits (text : List Char) (s : Span) : Prop where
  le : s.start ≤ s.stop
  stop_le : s.stop ≤ Text.byteLength text
  start : Text.isBoundary s.start text = true
  stop : Text.isBoundary s.stop text = true

/-- Two boundaries in order are the ends of such a span. -/
theorem Span.fits_of_isBoundary {s : Span} (hle : s.start ≤ s.stop)
    (hstart : Text.isBoundary s.start text = true) (hstop : Text.isBoundary s.stop text = true) :
    s.Fits text :=
  ⟨hle, Text.le_byteLength_of_isBoundary hstop, hstart, hstop⟩

/-- Spans that fit a text, from an offset on, each behind the one before
it. -/
inductive InOrder (text : List Char) : Nat → List Span → Prop
  | nil (offset : Nat) : InOrder text offset []
  | cons {offset : Nat} {s : Span} {rest : List Span} :
      offset ≤ s.start → s.Fits text → InOrder text s.stop rest → InOrder text offset (s :: rest)

/-- The first spans are in order, too. -/
theorem InOrder.take {spans : List Span} (h : InOrder text offset spans) (n : Nat) :
    InOrder text offset (spans.take n) := by
  induction h generalizing n with
  | nil => rw [List.take_nil]; exact .nil _
  | cons hle hfits _ ih =>
    cases n with
    | zero => exact .nil _
    | succ n => exact .cons hle hfits (ih n)

/-- And so they are from an earlier offset on. -/
theorem InOrder.mono {spans : List Span} {before : Nat} (h : InOrder text offset spans)
    (hle : before ≤ offset) : InOrder text before spans := by
  cases h with
  | nil => exact .nil _
  | cons hstart hfits hrest => exact .cons (Nat.le_trans hle hstart) hfits hrest

/-- Each of them fits the text. -/
theorem InOrder.fits {spans : List Span} (h : InOrder text offset spans) :
    ∀ s ∈ spans, s.Fits text := by
  induction h with
  | nil => simp
  | cons _ hfits _ ih =>
    intro s hs
    rcases List.mem_cons.mp hs with rfl | hs
    · exact hfits
    · exact ih s hs

/-! ## Places -/

/-- The place is one of the text: its offset is the length of what stands
before it. -/
def Cursor.At (text : List Char) (c : Cursor) : Prop :=
  ∃ pre, text = pre ++ c.rest ∧ c.offset = Text.byteLength pre

theorem Cursor.at_ofText (text : List Char) : (Cursor.ofText text).At text := ⟨[], rfl, rfl⟩

theorem Cursor.At.isBoundary {c : Cursor} (h : c.At text) :
    Text.isBoundary c.offset text = true := by
  obtain ⟨pre, htext, hoffset⟩ := h
  exact Text.isBoundary_iff.mpr ⟨pre, ⟨c.rest, htext.symm⟩, hoffset.symm⟩

/-- Reading a character leads to a later place of the text. -/
theorem Cursor.At.next {c next : Cursor} {ch : Char} (h : c.At text)
    (hnext : c.next? = some (ch, next)) : next.At text ∧ c.offset ≤ next.offset := by
  obtain ⟨pre, htext, hoffset⟩ := h
  rcases hrest : c.rest with _ | ⟨d, rest⟩
  · simp [Cursor.next?, hrest] at hnext
  · simp only [Cursor.next?, hrest, Option.some.injEq, Prod.mk.injEq] at hnext
    obtain ⟨rfl, rfl⟩ := hnext
    refine ⟨⟨pre ++ [d], ?_, ?_⟩, Nat.le_add_right _ _⟩
    · rw [htext, hrest, List.append_assoc, List.singleton_append]
    · rw [Text.byteLength_append, hoffset, Text.byteLength_cons, Text.byteLength_nil, Nat.add_zero]

/-! ## Threads -/

/-- A thread that has started at an offset of the text. -/
structure Thread.Within (text : List Char) (start : Nat) (t : Thread) : Prop where
  place : t.place.At text
  start_le : start ≤ t.place.offset
  saves : ∀ e ∈ t.saves, Text.isBoundary e.2 text = true

/-- Going to another address is no move in the text. -/
theorem Thread.Within.goto {t : Thread} (h : t.Within text start) (address : Nat) :
    ({ t with address } : Thread).Within text start :=
  ⟨h.place, h.start_le, h.saves⟩

/-- **A thread stays in the text**, whatever the instruction. -/
theorem Thread.Within.ways {t u : Thread} (h : t.Within text start) {i : Inst}
    (hu : u ∈ i.ways t) : u.Within text start := by
  cases i with
  | take set =>
    rcases hnext : t.place.next? with _ | ⟨c, place⟩
    · simp [Inst.ways, hnext] at hu
    · obtain ⟨hat, hle⟩ := h.place.next hnext
      simp only [Inst.ways, hnext] at hu
      split at hu
      · obtain rfl := List.mem_singleton.mp hu
        exact ⟨hat, Nat.le_trans h.start_le hle, h.saves⟩
      · cases hu
  | look test =>
    simp only [Inst.ways] at hu
    split at hu
    · obtain rfl := List.mem_singleton.mp hu
      exact h.goto _
    · cases hu
  | save slot =>
    obtain rfl := List.mem_singleton.mp hu
    refine ⟨h.place, h.start_le, fun e he => ?_⟩
    rcases List.mem_cons.mp he with rfl | he
    · exact h.place.isBoundary
    · exact h.saves e he
  | jump target =>
    obtain rfl := List.mem_singleton.mp hu
    exact h.goto target
  | fork first second =>
    simp only [Inst.ways, List.mem_cons, List.not_mem_nil, or_false] at hu
    rcases hu with rfl | rfl
    · exact h.goto first
    · exact h.goto second

/-- So does the thread that reaches the end of the program. -/
theorem explore_within {code : Array Inst} {fuel : Nat} {seen : Seen} {threads : List Thread}
    (h : ∀ t ∈ threads, t.Within text start) {u : Thread}
    (hu : (explore code fuel seen threads).2 = some u) : u.Within text start := by
  fun_induction explore code fuel seen threads with
  | case1 => cases hu
  | case2 => cases hu
  | case3 fuel seen t rest _ ih => exact ih (fun v hv => h v (List.mem_cons_of_mem t hv)) hu
  | case4 fuel seen t rest _ _ =>
    obtain rfl := Option.some.inj hu
    exact h t List.mem_cons_self
  | case5 fuel seen t rest _ i _ ih =>
    refine ih (fun v hv => ?_) hu
    rcases List.mem_append.mp hv with hv | hv
    · exact (h t List.mem_cons_self).ways hv
    · exact h v (List.mem_cons_of_mem t hv)

/-! ## Matches -/

/-- A match from an offset of the text on. -/
structure Match.Within (text : List Char) (offset : Nat) (m : Match) : Prop where
  offset_le : offset ≤ m.span.start
  fits : m.span.Fits text
  /-- The search goes on where the match ends. -/
  stop_eq : m.stop.offset = m.span.stop
  stop_at : m.stop.At text
  saves : ∀ e ∈ m.saves, Text.isBoundary e.2 text = true

theorem Match.Within.mono {m : Match} {before : Nat} (h : m.Within text offset)
    (hle : before ≤ offset) : m.Within text before :=
  { h with offset_le := Nat.le_trans hle h.offset_le }

/-- What a slot holds is a boundary. -/
theorem Match.Within.slot {m : Match} {slot n : Nat} (h : m.Within text offset)
    (hslot : m.slot? slot = some n) : Text.isBoundary n text = true := by
  obtain ⟨e, he, rfl⟩ := Option.map_eq_some_iff.mp hslot
  exact h.saves e (List.mem_of_find?_eq_some he)

/-- The ends of a group are boundaries. -/
theorem Match.Within.group {m : Match} {index : Nat} {s : Span} (h : m.Within text offset)
    (hgroup : m.group? index = some s) :
    Text.isBoundary s.start text = true ∧ Text.isBoundary s.stop text = true := by
  rcases hstart : m.slot? (2 * index) with _ | start
  · simp [Match.group?, hstart] at hgroup
  · rcases hstop : m.slot? (2 * index + 1) with _ | stop
    · simp [Match.group?, hstart, hstop] at hgroup
    · simp only [Match.group?, hstart, hstop, Option.some.injEq] at hgroup
      subst hgroup
      exact ⟨h.slot hstart, h.slot hstop⟩

/-- Matches from an offset of the text on, each from the end of the one
before it. -/
inductive Successive (text : List Char) : Nat → List Match → Prop
  | nil (offset : Nat) : Successive text offset []
  | cons {offset : Nat} {m : Match} {rest : List Match} :
      m.Within text offset → Successive text m.span.stop rest → Successive text offset (m :: rest)

/-- Their spans are in order. -/
theorem Successive.inOrder {ms : List Match} (h : Successive text offset ms) :
    InOrder text offset (ms.map (·.span)) := by
  induction h with
  | nil offset => exact .nil offset
  | cons hm _ ih => exact .cons hm.offset_le hm.fits ih

/-- All of them lie in the text. -/
theorem Successive.within {ms : List Match} (h : Successive text offset ms) :
    ∀ m ∈ ms, m.Within text 0 := by
  induction h with
  | nil offset => simp
  | cons hm _ ih =>
    intro m' hm'
    rcases List.mem_cons.mp hm' with rfl | hm'
    · exact hm.mono (Nat.zero_le _)
    · exact ih m' hm'

namespace Program

variable {p : Program} {c : Cursor} {m : Match}

/-- A thread that starts at a place of the text and reaches the end of the
program is a match. -/
theorem within_of_explore {fuel : Nat} {seen seen' : Seen} {t : Thread} (hat : c.At text)
    (hexplore : explore p.code fuel seen [⟨0, c, []⟩] = (seen', some t)) :
    Match.Within text c.offset ⟨⟨c.offset, t.place.offset⟩, t.place, t.saves⟩ := by
  have hstart : ∀ u ∈ [Thread.mk 0 c []], u.Within text c.offset := by
    intro u hu
    obtain rfl := List.mem_singleton.mp hu
    exact ⟨hat, Nat.le_refl _, by simp⟩
  have ht : t.Within text c.offset := explore_within hstart (congrArg Prod.snd hexplore)
  exact ⟨Nat.le_refl _, Span.fits_of_isBoundary ht.start_le hat.isBoundary ht.place.isBoundary,
    rfl, ht.place, ht.saves⟩

/-- The search goes from one place of the text to the next. -/
theorem searchFrom_within {fuel : Nat} {seen : Seen} {before : Option Char} {left : Nat}
    {rest : List Char} (hat : (Cursor.mk before rest offset left).At text)
    (hm : p.searchFrom fuel seen before offset left rest = some m) : m.Within text offset := by
  induction rest generalizing seen before offset left with
  | nil =>
    rw [searchFrom] at hm
    rcases hexplore : explore p.code fuel seen [⟨0, ⟨before, [], offset, left⟩, []⟩]
      with ⟨seen', _ | t⟩
    · simp only [hexplore, reduceCtorEq] at hm
    · simp only [hexplore, Option.some.injEq] at hm
      exact hm ▸ within_of_explore hat hexplore
  | cons ch rest ih =>
    rw [searchFrom] at hm
    rcases hexplore : explore p.code fuel seen [⟨0, ⟨before, ch :: rest, offset, left⟩, []⟩]
      with ⟨seen', _ | t⟩
    · simp only [hexplore] at hm
      obtain ⟨hnext, hle⟩ := hat.next rfl
      exact (ih hnext hm).mono hle
    · simp only [hexplore, Option.some.injEq] at hm
      exact hm ▸ within_of_explore hat hexplore

/-- **A match lies in the text**, at or behind the place the search starts
at. -/
theorem find?_within (hat : c.At text) (hm : p.find? c = some m) : m.Within text c.offset :=
  searchFrom_within hat hm

/-- **The matches from a place on follow each other**: the search goes on
where the last one ends, or behind the next character. -/
theorem findAll_successive (hat : c.At text) (n : Nat) (lastStop : Option Nat) :
    Successive text c.offset (p.findAll n lastStop c) := by
  induction n generalizing lastStop c with
  | zero => exact .nil _
  | succ n ih =>
    -- a match found at or behind the place, and the matches from its end on
    have hcons : ∀ {m : Match}, m.Within text c.offset →
        Successive text c.offset (m :: p.findAll n (some m.span.stop) m.stop) := by
      intro m hm
      have hrest := ih hm.stop_at (some m.span.stop)
      rw [hm.stop_eq] at hrest
      exact .cons hm hrest
    rw [findAll]
    rcases hfind : p.find? c with _ | m
    · exact .nil _
    · have hm : m.Within text c.offset := find?_within hat hfind
      simp only
      split
      · rcases hnext : c.next? with _ | ⟨ch, next⟩
        · exact .nil _
        · obtain ⟨hnextAt, hle⟩ := hat.next hnext
          rcases hfind' : p.find? next with _ | m'
          · simp only [hfind']
            exact .nil _
          · simp only [hfind']
            exact hcons ((find?_within hnextAt hfind').mono hle)
      · exact hcons hm

theorem allMatches_successive (p : Program) (text : List Char) :
    Successive text 0 (p.allMatches text) :=
  findAll_successive (Cursor.at_ofText text) _ none

/-- **The first match is found iff there are matches**: it counts even if it is
empty. -/
theorem hasMatch_eq (p : Program) (text : List Char) :
    p.hasMatch text = !(p.allMatches text).isEmpty := by
  rw [hasMatch, allMatches, findAll]
  rcases p.find? (Cursor.ofText text) with _ | m
  · rfl
  · simp

end Program

/-- **The matches of a text are in order** and do not overlap. -/
theorem allMatches_inOrder (p : Pattern) (text : List Char) :
    InOrder text 0 ((p.allMatches text).map (·.span)) :=
  (p.finder.allMatches_successive text).inOrder

/-- **The matches and their groups lie on boundaries** of the text. -/
theorem isBoundary_of_mem_spans {p : Pattern} {s : Span} (hs : s ∈ p.spans text) :
    Text.isBoundary s.start text = true ∧ Text.isBoundary s.stop text = true := by
  obtain ⟨m, hm, hs⟩ := List.mem_flatMap.mp hs
  have hwithin : m.Within text 0 := (p.finder.allMatches_successive text).within m hm
  rcases List.mem_cons.mp hs with rfl | hs
  · exact ⟨hwithin.fits.start, hwithin.fits.stop⟩
  · obtain ⟨g, -, hgroup⟩ := List.mem_filterMap.mp hs
    exact hwithin.group hgroup

/-- A text holds a match iff there are spans of matches in it. -/
theorem hasMatch_eq_spans (p : Pattern) (text : List Char) :
    p.hasMatch text = !(p.spans text).isEmpty := by
  rw [hasMatch, Program.hasMatch_eq, spans, allMatches]
  rcases p.finder.allMatches text with _ | ⟨m, ms⟩
  · rfl
  · simp [spansOf]

/-- Where something is found of the pattern of a source, there is this pattern. -/
theorem exists_ofSource {β : Type} {source : String} {f : Pattern → β} {found : β}
    (h : (ofSource source).toOption.map f = some found) :
    ∃ p, ofSource source = .ok p ∧ f p = found := by
  rcases hp : ofSource source with rejection | p
  · rw [hp] at h
    cases h
  · rw [hp] at h
    exact ⟨p, rfl, Option.some.inj h⟩

end Pattern

end LogSift
