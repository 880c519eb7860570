import LogSift.Proofs.Pattern.Spans
/-!
# Patterns that find text

A pattern may match without any text, at a place. One that `FindsText` does
not: each of its matches has a character at least. Whatever is found is
found by following threads from a place of the text (`Match.Found`), so that
a program that has to take a character first finds text
(`findsText_of_takesFirst`).
-/


namespace LogSift

namespace Pattern

variable {p : Program} {text : List Char} {c : Cursor} {t : Thread} {m : Match} {fuel : Nat}
variable {seen : Seen} {s : CharSet}

/-- **No match is empty.** -/
def FindsText (p : Pattern) : Prop := ∀ text, ∀ m ∈ p.allMatches text, m.span.start < m.span.stop

/-- **How a match is found**: by following threads from a place of the text to the end of the
program. -/
def Match.Found (p : Program) (text : List Char) (m : Match) : Prop :=
  ∃ (c : Cursor) (fuel : Nat) (seen : Seen) (t : Thread), c.At text ∧
    (explore p.code fuel seen [⟨0, c, []⟩]).2 = some t ∧ m.span = ⟨c.offset, t.place.offset⟩

theorem found_of_searchFrom {before : Option Char} {offset left : Nat} {rest : List Char}
    (hat : (Cursor.mk before rest offset left).At text)
    (hm : p.searchFrom fuel seen before offset left rest = some m) : m.Found p text := by
  induction rest generalizing seen before offset left with
  | nil =>
    rw [Program.searchFrom] at hm
    rcases hexplore : explore p.code fuel seen [⟨0, ⟨before, [], offset, left⟩, []⟩]
      with ⟨seen', _ | t⟩
    · simp only [hexplore, reduceCtorEq] at hm
    · simp only [hexplore, Option.some.injEq] at hm
      exact ⟨_, fuel, seen, t, hat, congrArg Prod.snd hexplore, by rw [← hm]⟩
  | cons ch rest ih =>
    rw [Program.searchFrom] at hm
    rcases hexplore : explore p.code fuel seen [⟨0, ⟨before, ch :: rest, offset, left⟩, []⟩]
      with ⟨seen', _ | t⟩
    · simp only [hexplore] at hm
      exact ih (hat.next rfl).1 hm
    · simp only [hexplore, Option.some.injEq] at hm
      exact ⟨_, fuel, seen, t, hat, congrArg Prod.snd hexplore, by rw [← hm]⟩

theorem found_of_mem_findAll {n : Nat} {lastStop : Option Nat} (hat : c.At text)
    (hm : m ∈ p.findAll n lastStop c) : m.Found p text := by
  induction n generalizing lastStop c with
  | zero => cases hm
  | succ n ih =>
    -- the match found from a place on is the one, or it comes behind its end
    have hcons : ∀ {c m'}, c.At text → p.find? c = some m' →
        m ∈ m' :: p.findAll n (some m'.span.stop) m'.stop → m.Found p text := by
      intro c m' hat hfind hm
      rcases List.mem_cons.mp hm with rfl | hm
      · exact found_of_searchFrom hat hfind
      · exact ih (Program.find?_within hat hfind).stop_at hm
    rw [Program.findAll] at hm
    rcases hfind : p.find? c with _ | m'
    · simp only [hfind, List.not_mem_nil] at hm
    · simp only [hfind] at hm
      split at hm
      · rcases hnext : c.next? with _ | ⟨ch, next⟩
        · simp only [hnext, List.not_mem_nil] at hm
        · simp only [hnext] at hm
          rcases hfind' : p.find? next with _ | m'
          · simp only [hfind', List.not_mem_nil] at hm
          · simp only [hfind'] at hm
            exact hcons (hat.next hnext).1 hfind' hm
      · exact hcons hat hfind hm

/-- The next place is behind the character. -/
theorem Cursor.lt_of_next? {ch : Char} {next : Cursor} (h : c.next? = some (ch, next)) :
    c.offset < next.offset := by
  rcases hrest : c.rest with _ | ⟨d, rest⟩
  · simp [Cursor.next?, hrest] at h
  · simp only [Cursor.next?, hrest, Option.some.injEq, Prod.mk.injEq] at h
    obtain ⟨rfl, rfl⟩ := h
    exact Nat.lt_add_of_pos_right d.utf8Size_pos

/-- **A program that takes a character first** ends behind the place it starts at. -/
theorem lt_of_explore (htake : p.code[0]? = some (.take s)) (hat : c.At text)
    (hexplore : (explore p.code fuel seen [⟨0, c, []⟩]).2 = some t) :
    c.offset < t.place.offset := by
  have hways : ∀ u ∈ Inst.ways (.take s) ⟨0, c, []⟩, u.Within text (c.offset + 1) := by
    intro u hu
    rcases hnext : c.next? with _ | ⟨ch, place⟩
    · simp [Inst.ways, hnext] at hu
    · simp only [Inst.ways, hnext] at hu
      split at hu
      · obtain rfl := List.mem_singleton.mp hu
        exact ⟨(hat.next hnext).1, Cursor.lt_of_next? hnext, by simp⟩
      · cases hu
  rcases fuel with _ | fuel
  · simp [explore] at hexplore
  · rw [explore] at hexplore
    split at hexplore
    · cases fuel <;> simp [explore] at hexplore
    · simp only [htake, List.append_nil] at hexplore
      exact (explore_within hways hexplore).start_le

/-- Does the program take a character first? -/
def takesFirst (p : Pattern) : Bool :=
  match p.finder.code[0]? with
  | some (Inst.take _) => true
  | _ => false

theorem findsText_of_takesFirst {p : Pattern} (h : p.takesFirst = true) : p.FindsText := by
  intro text m hm
  obtain ⟨c, fuel, seen, t, hat, hexplore, hspan⟩ :=
    found_of_mem_findAll (Cursor.at_ofText text) hm
  rw [hspan]
  rw [takesFirst] at h
  split at h
  · rename_i htake
    exact lt_of_explore htake hat hexplore
  · cases h

end Pattern

end LogSift
