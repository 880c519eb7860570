import LogSift.Proofs.Script.Literals
import LogSift.Proofs.Text.Lines
/-!
# The words of a line

A trimmed line is made of words with white space between them (`Spaced`), in
one way only. The operator and the words taken after it are these words, and
what is left after some of them is the line from the next word on, with the
white space in it as it was (`words_taken`). Whatever else is taken off a
line, what is left does not start with a blank (`Bare`), so no word is ever
empty.
-/


namespace LogSift

namespace Text

variable {cs word gap : List Char} {parts other : List (List Char × List Char)}

/-! ## Words and what is between them -/

/-- The text that is made of words, each with what is behind it. -/
def joined (parts : List (List Char × List Char)) : List Char :=
  parts.flatMap fun part => part.1 ++ part.2

/-- The words alone. -/
def wordsOf (parts : List (List Char × List Char)) : List String :=
  parts.map fun part => String.ofList part.1

/-- **Words with white space between them**: each has a character at least,
and none that is white space. Behind the last one there is nothing. -/
inductive Spaced : List (List Char × List Char) → Prop
  | nil : Spaced []
  | cons {word gap : List Char} {parts : List (List Char × List Char)} :
      word ≠ [] → (∀ c ∈ word, Unicode.space.contains c = false) →
      (∀ c ∈ gap, Unicode.space.contains c = true) → (gap = [] ↔ parts = []) → Spaced parts →
      Spaced ((word, gap) :: parts)

theorem joined_cons (word gap : List Char) (parts : List (List Char × List Char)) :
    joined ((word, gap) :: parts) = word ++ (gap ++ joined parts) := by
  rw [joined, List.flatMap_cons, List.append_assoc]
  rfl

/-- There is no text only without words. -/
theorem Spaced.joined_eq_nil_iff (h : Spaced parts) : joined parts = [] ↔ parts = [] := by
  cases h with
  | nil => simp [joined]
  | cons hne _ _ _ _ => simp [joined_cons, hne]

theorem Spaced.drop (h : Spaced parts) (n : Nat) : Spaced (parts.drop n) := by
  induction n generalizing parts with
  | zero => exact h
  | succ n ih =>
    cases h with
    | nil => exact .nil
    | cons _ _ _ _ hparts => exact ih hparts

/-- The text starts with a word. -/
theorem Spaced.trimStart_joined (h : Spaced parts) : trimStart (joined parts) = joined parts := by
  cases h with
  | nil => rfl
  | @cons word gap parts hne hword _ _ _ =>
    obtain ⟨c, word, rfl⟩ := List.exists_cons_of_ne_nil hne
    have hc := hword c List.mem_cons_self
    rw [Unicode.space_contains] at hc
    rw [joined_cons, List.cons_append]
    exact trimStart_cons_of_bare hc _

/-- **The first word is split off** together with the white space behind it. -/
theorem Spaced.splitWord (h : Spaced ((word, gap) :: parts)) :
    splitWord (joined ((word, gap) :: parts)) = (word, joined parts) := by
  cases h with
  | cons _ hword hgap hlast hparts =>
    simp only [Unicode.space_contains] at hword hgap
    have hbare : ∀ c ∈ word, (!isBlank c) = true := fun c hc => by rw [hword c hc]; rfl
    rw [Text.splitWord, joined_cons, List.takeWhile_append_of_pos hbare,
      List.dropWhile_append_of_pos hbare]
    cases gap with
    | nil =>
      obtain rfl := hlast.mp rfl
      rw [joined, List.flatMap_nil, List.append_nil, List.takeWhile_nil, List.append_nil]
      rfl
    | cons c gap =>
      have hc : isBlank c = true := hgap c List.mem_cons_self
      rw [List.cons_append, List.takeWhile_cons_of_neg (by simp [hc]), List.append_nil,
        List.dropWhile_cons_of_neg (by simp [hc]), ← List.cons_append, trimStart_append hgap,
        hparts.trimStart_joined]

/-- **A text is made of words in one way only.** -/
theorem Spaced.unique (h : Spaced parts) (hother : Spaced other)
    (hsame : joined other = joined parts) : other = parts := by
  induction h generalizing other with
  | nil => exact hother.joined_eq_nil_iff.mp hsame
  | @cons word gap parts hne hword hgap hlast hparts ih =>
    have h : Spaced ((word, gap) :: parts) := .cons hne hword hgap hlast hparts
    rcases other with _ | ⟨⟨word', gap'⟩, other⟩
    · exact absurd (h.joined_eq_nil_iff.mp hsame.symm) (List.cons_ne_nil _ _)
    · have hsplit := hother.splitWord
      rw [hsame, h.splitWord] at hsplit
      obtain ⟨rfl, hrest⟩ := Prod.mk.inj hsplit
      cases hother with
      | cons _ _ _ _ hother =>
        obtain rfl := ih hother hrest.symm
        rw [joined_cons, joined_cons, List.append_cancel_left_eq, List.append_cancel_right_eq]
          at hsame
        rw [hsame]

/-- **A trimmed text starts with a word.** White space is behind it just if there is more. -/
theorem exists_word (hstart : trimStart cs = cs) (hend : trimEnd cs = cs) (hne : cs ≠ []) :
    ∃ word gap rest, cs = word ++ (gap ++ rest) ∧ word ≠ [] ∧
      (∀ c ∈ word, isBlank c = false) ∧ (∀ c ∈ gap, isBlank c = true) ∧ (gap = [] ↔ rest = []) ∧
      trimStart rest = rest ∧ trimEnd rest = rest := by
  obtain ⟨c, cs, rfl⟩ := List.exists_cons_of_ne_nil hne
  let behind := (c :: cs).dropWhile (!isBlank ·)
  obtain ⟨gap, hgap, hbehind⟩ := exists_append_trimStart behind
  have hcs : c :: cs = (c :: cs).takeWhile (!isBlank ·) ++ (gap ++ trimStart behind) := by
    rw [← hbehind, List.takeWhile_append_dropWhile]
  refine ⟨_, gap, trimStart behind, hcs, ?_, fun d hd => ?_, hgap, ⟨?_, ?_⟩,
    trimStart_trimStart behind, ?_⟩
  · simp [isBlank_of_trimStart hstart]
  · rw [← Bool.not_eq_true']
    exact List.all_eq_true.mp List.all_takeWhile d hd
  · -- what is behind a word starts with white space, if there is anything
    rintro rfl
    rcases hrest : behind with _ | ⟨d, rest⟩
    · rfl
    · have hd := List.head?_dropWhile_not (!isBlank ·) (c :: cs)
      rw [show (c :: cs).dropWhile (!isBlank ·) = d :: rest from hrest] at hd
      rw [hrest] at hbehind
      simp [isBlank_of_trimStart hbehind.symm] at hd
  · -- behind the last word there is white space only, and that has been trimmed off
    intro hrest
    rw [hcs, hrest, List.append_nil] at hend
    have hnone := trimEnd_append hgap []
    rwa [List.nil_append, trimEnd_eq_self_of_append hend] at hnone
  · rw [hcs, ← List.append_assoc] at hend
    exact trimEnd_eq_self_of_append hend

/-- **Every trimmed text is made of words.** -/
theorem exists_spaced (hstart : trimStart cs = cs) (hend : trimEnd cs = cs) :
    ∃ parts, Spaced parts ∧ joined parts = cs := by
  induction hn : cs.length using Nat.strongRecOn generalizing cs with
  | ind n ih =>
    by_cases hnil : cs = []
    · exact ⟨[], .nil, hnil.symm⟩
    · obtain ⟨word, gap, rest, hcs, hne, hword, hgap, hlast, hstart', hend'⟩ :=
        exists_word hstart hend hnil
      have hshorter : rest.length < n := by
        have hlength := congrArg List.length hcs
        have hpos := List.length_pos_iff.mpr hne
        simp only [List.length_append] at hlength
        omega
      obtain ⟨parts, hparts, rfl⟩ := ih _ hshorter hstart' hend' rfl
      rw [hparts.joined_eq_nil_iff] at hlast
      simp only [← Unicode.space_contains] at hword hgap
      exact ⟨(word, gap) :: parts, .cons hne hword hgap hlast hparts, by rw [joined_cons, hcs]⟩

end Text

namespace Scanner

open Text (joined Spaced wordsOf)

variable {s t : Scanner} {parts : List (List Char × List Char)} {line : String}

/-! ## Taking words -/

/-- Something that is taken off a line. -/
inductive Call
  | word
  | int
  | all
  | matching (p : Pattern)
  | literal
  | literals (count : Nat)

/-- What is left after a call. If what it takes is not there, that is all. -/
def left (s : Scanner) : Call → Scanner
  | .word => s.leftAfter s.word?
  | .int => s.int?.2
  | .all => ⟨[]⟩
  | .matching p => s.leftAfter (s.matching? p)
  | .literal => s.leftAfter s.literalText?
  | .literals count => s.leftAfter (s.literals? count)

/-- What is left after several calls. -/
def after (s : Scanner) (calls : List Call) : Scanner := calls.foldl left s

/-- What is left after a number of words. -/
def afterWords (s : Scanner) (n : Nat) : Scanner := s.after (List.replicate n .word)

theorem isDone_of_spaced (h : Spaced parts) :
    (⟨joined parts⟩ : Scanner).isDone = true ↔ parts = [] := by
  rw [isDone, List.isEmpty_iff, h.joined_eq_nil_iff]

theorem word?_of_spaced (h : Spaced parts) :
    (⟨joined parts⟩ : Scanner).word? =
      parts.head?.map fun part => (String.ofList part.1, ⟨joined parts.tail⟩) := by
  rcases parts with _ | ⟨⟨word, gap⟩, parts⟩
  · rfl
  · rw [word?, if_neg (mt (isDone_of_spaced h).mp (List.cons_ne_nil _ _))]
    simp only [h.splitWord, List.head?_cons, List.tail_cons, Option.map_some]

/-- **Words are taken one after the other**, as long as there are any. -/
theorem afterWords_of_spaced (h : Spaced parts) (n : Nat) :
    (⟨joined parts⟩ : Scanner).afterWords n = ⟨joined (parts.drop n)⟩ := by
  induction n generalizing parts with
  | zero => rfl
  | succ n ih =>
    rw [afterWords, after, List.replicate_succ, List.foldl_cons, left, word?_of_spaced h]
    rcases parts with _ | ⟨part, parts⟩
    · exact (ih .nil).trans (by rw [List.drop_nil, List.drop_nil])
    · exact ih (h.drop 1)

/-! ## What is left -/

/-- **What is left does not start with a blank.** -/
def Bare (s : Scanner) : Prop := Text.trimStart s.rest = s.rest

theorem bare_ofRest (cs : List Char) : (ofRest cs).Bare := Text.trimStart_trimStart cs

theorem Bare.leftAfter {α : Type} {taken : Option (α × Scanner)} (h : s.Bare)
    (htaken : ∀ a t, taken = some (a, t) → t.Bare) : (s.leftAfter taken).Bare := by
  rcases taken with _ | ⟨a, t⟩
  · exact h
  · exact htaken a t rfl

theorem bare_of_word? {word : String} (h : s.word? = some (word, t)) : t.Bare := by
  rw [word?] at h
  split at h
  · cases h
  · obtain ⟨-, rfl⟩ := Prod.mk.inj (Option.some.inj h)
    exact Text.trimStart_trimStart _

theorem bare_of_matching? {p : Pattern} {word : String} (h : s.matching? p = some (word, t)) :
    t.Bare := by
  rw [matching?] at h
  split at h
  · cases h
  · split at h
    · obtain ⟨-, rfl⟩ := Prod.mk.inj (Option.some.inj h)
      exact Text.trimStart_trimStart _
    · cases h

theorem bare_of_literals? {count : Nat} {bodies : List String}
    (h : s.literals? count = some (bodies, t)) : t.Bare := by
  obtain ⟨-, -, -, tail, -, -, -, rfl⟩ := literals?_eq_some_iff.mp h
  exact bare_ofRest tail

theorem int?_snd (s : Scanner) : s.int?.2 = s.leftAfter s.word? := by
  rw [int?]
  rcases s.word? with _ | ⟨word, t⟩ <;> rfl

/-- **No call leaves a blank at the start.** -/
theorem Bare.left (h : s.Bare) (call : Call) : (s.left call).Bare := by
  cases call with
  | word => exact h.leftAfter fun _ _ => bare_of_word?
  | int =>
    rw [Scanner.left, int?_snd]
    exact h.leftAfter fun _ _ => bare_of_word?
  | all => exact bare_ofRest []
  | matching p => exact h.leftAfter fun _ _ => bare_of_matching?
  | literal =>
    exact h.leftAfter fun _ _ hliteral => bare_of_literals? (literalText?_eq_some_iff.mp hliteral)
  | literals count => exact h.leftAfter fun _ _ => bare_of_literals?

theorem Bare.after (h : s.Bare) (calls : List Call) : (s.after calls).Bare := by
  induction calls generalizing s with
  | nil => exact h
  | cons call calls ih => exact ih (h.left call)

/-- So a word that is taken has a character at least. -/
theorem Bare.word_ne_empty {word : String} (h : s.Bare) (hword : s.word? = some (word, t)) :
    word ≠ "" := by
  rcases hrest : s.rest with _ | ⟨c, cs⟩
  · simp [word?, isDone, hrest] at hword
  · rw [Bare, hrest] at h
    have hc := Text.isBlank_of_trimStart h
    simp only [word?, isDone, hrest, List.isEmpty_cons, Bool.false_eq_true, if_false,
      Option.some.injEq, Prod.mk.injEq] at hword
    rw [← hword.1, Text.splitWord, Ne, ← String.toList_inj]
    simp [hc]

/-- **Taking a line apart into words loses nothing.** A line that is neither blank nor a comment is
made of words, with white space between them and around them. The operator is the first word, and
what is taken after it, one word after the other, are the further words, until there are no more
and nothing is left. After some words, what is left is the rest of the line from the next word on,
with the white space in it. And whatever is taken, a word is never empty. -/
theorem words_taken (line : String) :
    (Text.trim line.toList ≠ [] → (Text.trim line.toList).head? ≠ some '#' →
      ∃ op s parts, ofLine line = some (op, s) ∧
        Spaced parts ∧ joined parts = Text.trim line.toList ∧
        (∀ other, Spaced other → joined other = Text.trim line.toList → other = parts) ∧
        (∃ before behind, (∀ c ∈ before ++ behind, Unicode.space.contains c = true) ∧
          line.toList = before ++ joined parts ++ behind) ∧
        some op = (wordsOf parts)[0]? ∧
        ∀ n, (s.afterWords n).word?.map (·.1) = (wordsOf parts)[n + 1]? ∧
          ((s.afterWords n).isDone = true ↔ parts.length ≤ n + 1) ∧
          (s.afterWords n).all? =
            if n + 1 < parts.length then some (String.ofList (joined (parts.drop (n + 1))))
            else none) ∧
      ∀ op s, ofLine line = some (op, s) →
        op ≠ "" ∧ ∀ calls word t, (s.after calls).word? = some (word, t) → word ≠ "" := by
  constructor
  · intro hne hplain
    obtain ⟨parts, hparts, hjoined⟩ := Text.exists_spaced (Text.trimStart_trim line.toList)
      (Text.trimEnd_trimEnd _)
    obtain ⟨before, behind, hblanks, hline⟩ := Text.exists_trim line.toList
    simp only [← Unicode.space_contains] at hblanks
    rw [← hjoined] at hne hplain hline
    rcases parts with _ | ⟨⟨op, gap⟩, parts⟩
    · exact absurd rfl hne
    have htaken : ofLine line = some (String.ofList op, ⟨joined parts⟩) := by
      rw [ofLine, ← hjoined, if_neg hplain]
      exact word?_of_spaced hparts
    refine ⟨String.ofList op, ⟨joined parts⟩, _, htaken, hparts, hjoined,
      fun other hother hsame => hparts.unique hother (hsame.trans hjoined.symm),
      ⟨before, behind, hblanks, hline⟩, rfl, fun n => ?_⟩
    have htail : Spaced parts := hparts.drop 1
    have hdone := isDone_of_spaced (htail.drop n)
    rw [List.drop_eq_nil_iff] at hdone
    rw [afterWords_of_spaced htail n, word?_of_spaced (htail.drop n)]
    refine ⟨?_, ?_, ?_⟩
    · rw [Option.map_map, List.head?_drop, wordsOf, List.map_cons, List.getElem?_cons_succ,
        List.getElem?_map]
      rfl
    · rw [hdone, List.length_cons, Nat.add_le_add_iff_right]
    · simp only [all?, hdone, List.length_cons, Nat.add_lt_add_iff_right, List.drop_succ_cons]
      by_cases hn : parts.length ≤ n
      · rw [if_pos hn, if_neg (Nat.not_lt.mpr hn)]
      · rw [if_neg hn, if_pos (Nat.lt_of_not_le hn)]
  · intro op s h
    have hword : word? ⟨Text.trim line.toList⟩ = some (op, s) := by
      rw [ofLine] at h
      split at h
      · cases h
      · exact h
    have hbare : Bare ⟨Text.trim line.toList⟩ := Text.trimStart_trim line.toList
    exact ⟨hbare.word_ne_empty hword, fun calls word t htaken =>
      ((bare_of_word? hword).after calls).word_ne_empty htaken⟩

/-- Several blanks of different kinds between two words, and around them. -/
theorem words_taken_of_wide_blanks :
    let line := "\t<\u3000\u00A0a  b#\u2028c \u2003"
    let parts := [(['<'], ['\u3000', '\u00A0']), (['a'], [' ', ' ']), (['b', '#'], ['\u2028']),
      (['c'], [])]
    Text.trim line.toList ≠ [] ∧ (Text.trim line.toList).head? ≠ some '#' ∧
      ∃ s t, ofLine line = some ("<", s) ∧ Spaced parts ∧ joined parts = Text.trim line.toList ∧
        (s.afterWords 1).word?.map (·.1) = some "b#" ∧
        (s.afterWords 1).all? = some "b#\u2028c" ∧
        (s.afterWords 3).word?.map (·.1) = none ∧ (s.afterWords 3).isDone = true ∧
        (s.after [.word, .int]).word? = some ("c", t) ∧ "c" ≠ "" := by
  intro line parts
  have hne : Text.trim line.toList ≠ [] := by decide
  have hplain : (Text.trim line.toList).head? ≠ some '#' := by decide
  have hparts : Spaced parts := by
    refine .cons (by decide) ?_ ?_ (by decide) (.cons (by decide) ?_ ?_ (by decide)
      (.cons (by decide) ?_ ?_ (by decide) (.cons (by decide) ?_ ?_ (by decide) .nil)))
    all_goals simp [Unicode.space_contains, isBlank]
  have hjoined : joined parts = Text.trim line.toList := by decide
  obtain ⟨htaken, hfull⟩ := words_taken line
  obtain ⟨op, s, found, hline, hfound, hfoundJoined, hunique, -, hop, hwords⟩ := htaken hne hplain
  obtain rfl := hunique parts hparts hjoined
  obtain rfl : op = "<" := Option.some.inj hop
  obtain ⟨hword, -, hall⟩ := hwords 1
  obtain ⟨hnone, hdone, -⟩ := hwords 3
  have hrest : ofLine line = some ("<", ⟨"a  b#\u2028c".toList⟩) := by decide
  obtain rfl : s = ⟨"a  b#\u2028c".toList⟩ := by
    rw [hrest] at hline
    exact (Prod.mk.inj (Option.some.inj hline)).2.symm
  have hlast : (Scanner.after ⟨"a  b#\u2028c".toList⟩ [.word, .int]).word? = some ("c", ⟨[]⟩) := by
    decide
  exact ⟨hne, hplain, _, ⟨[]⟩, hline, hparts, hjoined, hword, hall, hnone, hdone.mpr (by decide),
    hlast, (hfull _ _ hline).2 _ _ _ hlast⟩

end Scanner

end LogSift
