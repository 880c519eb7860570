import LogSift.Text.Blank
import LogSift.Text.Lines
/-!
# The content of a text

The content of a text is its lines that are not blank, each trimmed: what
a reader sees that goes line by line and takes no note of blanks. How
lines end does not belong to it. Texts may be joined by a line feed: the
content of the whole is that of the first and then that of the second
(`content_append`), whatever stands at the seam.
-/


namespace LogSift

namespace Text

variable {c : Char} {cs blanks line : List Char} {ls : List (List Char)}

/-! ## Trimming -/

/-- Blanks at the front are skipped. -/
theorem trimStart_append (h : ∀ c ∈ blanks, isBlank c = true) (cs : List Char) :
    trimStart (blanks ++ cs) = trimStart cs := by
  rw [trimStart, List.dropWhile_append_of_pos h]
  rfl

/-- What is skipped at the front is blank. -/
theorem exists_append_trimStart (cs : List Char) :
    ∃ blanks, (∀ c ∈ blanks, isBlank c = true) ∧ cs = blanks ++ trimStart cs :=
  ⟨cs.takeWhile isBlank, List.all_eq_true.mp List.all_takeWhile,
    List.takeWhile_append_dropWhile.symm⟩

/-- A text that does not start with a blank is not trimmed at its start. -/
theorem trimStart_cons_of_bare (hc : isBlank c = false) (cs : List Char) :
    trimStart (c :: cs) = c :: cs := by
  rw [trimStart, List.dropWhile_cons_of_neg (by simp [hc])]

/-- A text that is trimmed at its start does not start with a blank. -/
theorem isBlank_of_trimStart (h : trimStart (c :: cs) = c :: cs) : isBlank c = false := by
  cases hc : isBlank c
  · rfl
  · have hlength := (List.dropWhile_sublist (p := isBlank) (l := cs)).length_le
    rw [trimStart, List.dropWhile_cons_of_pos hc] at h
    rw [h, List.length_cons] at hlength
    omega

@[simp] theorem trimStart_trimStart (cs : List Char) : trimStart (trimStart cs) = trimStart cs := by
  induction cs with
  | nil => rfl
  | cons c cs ih =>
    by_cases hc : isBlank c = true
    · simpa [trimStart, hc] using ih
    · simp [trimStart, hc]

theorem trimEnd_concat (hc : isBlank c = true) (cs : List Char) :
    trimEnd (cs ++ [c]) = trimEnd cs := by
  induction cs with
  | nil => simp [trimEnd, hc]
  | cons d cs ih => rw [List.cons_append, trimEnd, trimEnd, ih]

theorem trim_concat (hc : isBlank c = true) (cs : List Char) : trim (cs ++ [c]) = trim cs := by
  rw [trim, trim, trimStart, trimStart, List.dropWhile_append]
  split
  · -- all before the last character is blank, and then all is
    rename_i hall
    rw [List.isEmpty_iff.mp hall]
    simp [hc, trimEnd]
  · exact trimEnd_concat hc _

/-- Blanks at the end are trimmed off. -/
theorem trim_append (h : ∀ c ∈ blanks, isBlank c = true) (cs : List Char) :
    trim (cs ++ blanks) = trim cs := by
  induction blanks generalizing cs with
  | nil => rw [List.append_nil]
  | cons c blanks ih =>
    obtain ⟨hc, hblanks⟩ := List.forall_mem_cons.mp h
    rw [← List.singleton_append, ← List.append_assoc, ih hblanks, trim_concat hc]

/-- What is trimmed off the end is blank. -/
theorem exists_trimEnd_append (cs : List Char) :
    ∃ blanks, (∀ c ∈ blanks, isBlank c = true) ∧ cs = trimEnd cs ++ blanks := by
  induction cs with
  | nil => exact ⟨[], List.forall_mem_nil _, rfl⟩
  | cons c cs ih =>
    obtain ⟨blanks, hblanks, hcs⟩ := ih
    rcases hkept : trimEnd cs with _ | ⟨d, kept⟩
    · rw [hkept, List.nil_append] at hcs
      by_cases hc : isBlank c = true
      · refine ⟨c :: cs, ?_, by simp [trimEnd, hkept, hc]⟩
        rw [hcs]
        exact List.forall_mem_cons.mpr ⟨hc, hblanks⟩
      · exact ⟨cs, hcs ▸ hblanks, by simp [trimEnd, hkept, hc]⟩
    · refine ⟨blanks, hblanks, ?_⟩
      rw [trimEnd, hkept, List.cons_append, ← hkept, ← hcs]

/-- **A text is not trimmed at its end** iff it does not end with a blank. -/
theorem trimEnd_eq_self_iff : trimEnd cs = cs ↔ ∀ c, cs.getLast? = some c → isBlank c = false := by
  rcases List.eq_nil_or_concat cs with rfl | ⟨init, c, rfl⟩
  · simp [trimEnd]
  · rw [List.concat_eq_append, List.getLast?_concat]
    constructor
    · rintro h d hd
      obtain rfl := Option.some.inj hd
      by_cases hc : isBlank c = true
      · -- the blank would have been trimmed off
        obtain ⟨blanks, -, hinit⟩ := exists_trimEnd_append init
        rw [trimEnd_concat hc] at h
        have hlength := congrArg List.length hinit
        rw [h] at hlength
        simp only [List.length_append, List.length_singleton] at hlength
        omega
      · simpa using hc
    · intro h
      have hc := h c rfl
      induction init with
      | nil => simp [trimEnd, hc]
      | cons d init ih =>
        rw [List.cons_append, trimEnd, ih]
        cases init <;> rfl

theorem trimEnd_append (h : ∀ c ∈ blanks, isBlank c = true) (cs : List Char) :
    trimEnd (cs ++ blanks) = trimEnd cs := by
  induction blanks generalizing cs with
  | nil => rw [List.append_nil]
  | cons c blanks ih =>
    obtain ⟨hc, hblanks⟩ := List.forall_mem_cons.mp h
    rw [← List.singleton_append, ← List.append_assoc, ih hblanks, trimEnd_concat hc]

@[simp] theorem trimEnd_trimEnd (cs : List Char) : trimEnd (trimEnd cs) = trimEnd cs := by
  obtain ⟨blanks, hblanks, hcs⟩ := exists_trimEnd_append cs
  conv => rhs; rw [hcs, trimEnd_append hblanks]

/-- If a text is not trimmed at its end, its last part is not. -/
theorem trimEnd_eq_self_of_append {front back : List Char}
    (h : trimEnd (front ++ back) = front ++ back) : trimEnd back = back := by
  rw [trimEnd_eq_self_iff] at h ⊢
  intro c hc
  exact h c (by rw [List.getLast?_append, hc, Option.some_or])

/-- If its last part is not and is there, the text is not. -/
theorem trimEnd_append_eq_self {back : List Char} (hne : back ≠ []) (h : trimEnd back = back)
    (front : List Char) : trimEnd (front ++ back) = front ++ back := by
  rw [trimEnd_eq_self_iff] at h ⊢
  intro c hc
  rw [List.getLast?_append, List.getLast?_eq_some_getLast hne, Option.some_or] at hc
  exact h c (List.getLast?_eq_some_getLast hne ▸ hc)

/-- A line is trimmed alike whether or not its end has been. -/
@[simp] theorem trim_trimEnd (cs : List Char) : trim (trimEnd cs) = trim cs := by
  obtain ⟨blanks, hblanks, hcs⟩ := exists_trimEnd_append cs
  conv => rhs; rw [hcs, trim_append hblanks]

@[simp] theorem trim_trim (cs : List Char) : trim (trim cs) = trim cs := by
  conv => lhs; arg 1; rw [trim]
  rw [trim_trimEnd, trim, trim, trimStart_trimStart]

@[simp] theorem trimStart_trim (cs : List Char) : trimStart (trim cs) = trim cs := by
  rcases htrim : trim cs with _ | ⟨c, rest⟩
  · rfl
  · obtain ⟨blanks, -, hstart⟩ := exists_trimEnd_append (trimStart cs)
    have htrimmed := trimStart_trimStart cs
    rw [hstart, show trimEnd (trimStart cs) = c :: rest from htrim, List.cons_append] at htrimmed
    exact trimStart_cons_of_bare (isBlank_of_trimStart htrimmed) rest

/-- What is trimmed off is blank. -/
theorem exists_trim (cs : List Char) :
    ∃ before behind, (∀ c ∈ before ++ behind, isBlank c = true) ∧
      cs = before ++ trim cs ++ behind := by
  obtain ⟨before, hbefore, hstart⟩ := exists_append_trimStart cs
  obtain ⟨behind, hbehind, hend⟩ := exists_trimEnd_append (trimStart cs)
  refine ⟨before, behind, List.forall_mem_append.mpr ⟨hbefore, hbehind⟩, ?_⟩
  rw [List.append_assoc, trim, ← hend, ← hstart]

/-! ## Lines -/

theorem linesFrom_eq (done : List (List Char)) (line cs : List Char) :
    linesFrom done line cs = done.reverse ++ linesFrom [] line cs := by
  induction cs generalizing done line with
  | nil =>
    rw [linesFrom, linesFrom]
    split <;> simp
  | cons c cs ih =>
    rw [linesFrom, linesFrom]
    split
    · rw [ih, ih [closeLine line]]
      simp
    · exact ih done _

/-- A line feed closes a line. -/
theorem linesFrom_newline (line rest : List Char) :
    linesFrom [] line ('\n' :: rest) = closeLine line :: lines rest := by
  rw [linesFrom, if_pos rfl, linesFrom_eq, lines]
  rfl

theorem linesFrom_cons (hc : c ≠ '\n') (line rest : List Char) :
    linesFrom [] line (c :: rest) = linesFrom [] (c :: line) rest := by
  rw [linesFrom, if_neg hc]

/-- A text without line feeds is one line, if it is anything. -/
theorem lines_of_notMem (h : '\n' ∉ cs) : lines cs = if cs.isEmpty then [] else [cs] := by
  have hfrom : ∀ line, linesFrom [] line cs =
      if line.isEmpty && cs.isEmpty then [] else [line.reverse ++ cs] := by
    induction cs with
    | nil =>
      intro line
      rw [linesFrom]
      cases line <;> simp
    | cons c cs ih =>
      intro line
      rw [List.mem_cons, not_or] at h
      rw [linesFrom_cons (Ne.symm h.1), ih h.2]
      simp
  simpa [lines] using hfrom []

/-- No line holds a line feed. -/
theorem notMem_of_mem_linesFrom (hline : '\n' ∉ line) :
    ∀ l ∈ linesFrom [] line cs, '\n' ∉ l := by
  induction cs generalizing line with
  | nil =>
    rw [linesFrom]
    split <;> simp_all
  | cons c cs ih =>
    by_cases hc : c = '\n'
    · subst hc
      rw [linesFrom_newline]
      refine List.forall_mem_cons.mpr ⟨?_, ih (List.not_mem_nil)⟩
      rw [closeLine.eq_def]
      split <;> simp_all
    · rw [linesFrom_cons hc]
      exact ih (by simp [hline, Ne.symm hc])

theorem notMem_of_mem_lines : ∀ l ∈ lines cs, '\n' ∉ l :=
  notMem_of_mem_linesFrom List.not_mem_nil

/-! ## Content -/

/-- The lines that are not blank, each trimmed. -/
def contentOf (ls : List (List Char)) : List (List Char) := (ls.map trim).filter (· ≠ [])

/-- The content of a text. -/
def content (cs : List Char) : List (List Char) := contentOf (lines cs)

@[simp] theorem contentOf_nil : contentOf [] = [] := rfl

@[simp] theorem contentOf_append (ls more : List (List Char)) :
    contentOf (ls ++ more) = contentOf ls ++ contentOf more := by
  simp [contentOf]

theorem contentOf_cons_of_blank (h : trim line = []) (ls : List (List Char)) :
    contentOf (line :: ls) = contentOf ls := by
  simp [contentOf, h]

theorem contentOf_cons (h : trim line ≠ []) (ls : List (List Char)) :
    contentOf (line :: ls) = trim line :: contentOf ls := by
  simp [contentOf, h]

/-- Lines that are trimmed alike have the same content. -/
theorem contentOf_cons_congr {other : List Char} (h : trim line = trim other)
    (ls : List (List Char)) : contentOf (line :: ls) = contentOf (other :: ls) := by
  simp [contentOf, h]

/-- A carriage return before a line feed is trimmed off in any case. -/
theorem trim_closeLine (line : List Char) : trim (closeLine line) = trim line.reverse := by
  rw [closeLine.eq_def]
  split
  · rw [List.reverse_cons, trim_concat (by decide)]
  · rfl

/-- **Where texts are joined by a line feed**, so are their contents. The
induction is over the first text, with the line that it has come to. -/
theorem contentOf_linesFrom_append (line a b : List Char) :
    contentOf (linesFrom [] line (a ++ '\n' :: b)) =
      contentOf (linesFrom [] line a) ++ content b := by
  induction a generalizing line with
  | nil =>
    -- the seam closes the line, which on its own would have been the last one or, empty, none
    rw [List.nil_append, linesFrom_newline, contentOf_cons_congr (trim_closeLine line), linesFrom]
    cases line with
    | nil => exact contentOf_cons_of_blank rfl _
    | cons c line => exact contentOf_append [(c :: line).reverse] (lines b)
  | cons c a ih =>
    by_cases hc : c = '\n'
    · -- a line is closed before the seam, the same in both texts
      subst hc
      have hfirst : ∀ ls, contentOf (closeLine line :: ls) =
          contentOf [closeLine line] ++ contentOf ls := contentOf_append [closeLine line]
      rw [List.cons_append, linesFrom_newline, linesFrom_newline, hfirst (lines (a ++ '\n' :: b)),
        hfirst (lines a), List.append_assoc]
      exact congrArg _ (ih [])
    · rw [List.cons_append, linesFrom_cons hc, linesFrom_cons hc]
      exact ih (c :: line)

theorem content_append (a b : List Char) : content (a ++ '\n' :: b) = content a ++ content b :=
  contentOf_linesFrom_append [] a b

/-- The content of a text without line feeds. -/
theorem content_of_notMem (h : '\n' ∉ cs) : content cs = contentOf [cs] := by
  rw [content, lines_of_notMem h]
  cases cs <;> rfl

end Text

end LogSift
