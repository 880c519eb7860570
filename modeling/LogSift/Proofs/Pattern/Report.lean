import LogSift.Pattern
/-!
# What is told of a source that is refused

A source is refused for a fault of its own, or for one that it has between
anchors (`ofSource_eq_error_iff`). The report on the fault names it in its
last line (`lastLine_report`), below the heading and the source. A
rejection for the syntax tells that line; one for a repetition tells the
first line, which is the heading (`diagnosis_told`).
-/


namespace LogSift

namespace Pattern

variable {source compiled : List Char} {f : Fault} {r : Rejection}

/-! ## Refused sources -/

/-- **A source is refused for a fault** of its own, or else for the one that it has between
anchors. The text that is reported with the fault is the one that has it. -/
inductive RefusedFor (source : List Char) : Fault → List Char → Prop
  | own {f : Fault} : compile source = .error f → RefusedFor source f source
  | anchored {f : Fault} {finder : Program} : compile source = .ok finder →
      compile (wrapped source) = .error f → RefusedFor source f (wrapped source)

/-- There is one fault for which a source is refused. -/
theorem RefusedFor.unique {f' : Fault} {compiled' : List Char} (h : RefusedFor source f compiled)
    (h' : RefusedFor source f' compiled') : f = f' ∧ compiled = compiled' := by
  rcases h with hf | ⟨hfinder, hf⟩ <;> rcases h' with hf' | ⟨hfinder', hf'⟩
  · exact ⟨Except.error.inj (hf.symm.trans hf'), rfl⟩
  · cases hf.symm.trans hfinder'
  · cases hfinder.symm.trans hf'
  · exact ⟨Except.error.inj (hf.symm.trans hf'), rfl⟩

theorem ofSource_eq_error_iff {source : String} :
    ofSource source = .error r ↔ ∃ f compiled,
      RefusedFor source.toList f compiled ∧ Rejection.ofFault f compiled source.toList = r := by
  simp only [ofSource]
  constructor
  · intro h
    split at h
    · rename_i f hf
      exact ⟨f, _, .own hf, Except.error.inj h⟩
    · rename_i finder hfinder
      split at h
      · rename_i f hf
        exact ⟨f, _, .anchored hfinder hf, Except.error.inj h⟩
      · cases h
  · rintro ⟨f, compiled, hf | ⟨hfinder, hf⟩, rfl⟩
    · simp only [hf]
    · simp only [hfinder, hf]

namespace Fault

/-! ## Reports -/

/-- What holds of the letters of a sentence holds of them as they are computed. Letters that are
read off a literal are much faster to go through. -/
theorem of_letters {P : List Char → Prop} {s : String} {letters : List Char}
    (hs : s = String.ofList letters) (h : P letters) : P s.toList := by
  rw [hs, String.toList_ofList]
  exact h

/-- The diagnosis has no blanks around it. -/
theorem trim_verdict (f : Fault) : Text.trim f.verdict = f.verdict := by
  let P (l : List Char) : Prop := Text.trim ("error: ".toList ++ l) = "error: ".toList ++ l
  change P f.diagnosis.toList
  cases f with
  | nestedTooDeep => decide +kernel
  | boundaryUnrecognized | boundaryUnfinished =>
    exact of_letters String.ofList_append.symm (by decide +kernel)
  | _ => exact of_letters rfl rfl

theorem head?_verdict (f : Fault) : f.verdict.head? = some 'e' := rfl

theorem verdict_ne_nil (f : Fault) : f.verdict ≠ [] :=
  List.append_ne_nil_of_left_ne_nil (by decide) _

/-- The lines of a report before its last one. -/
def preamble (compiled : List Char) : List (List Char) :=
  heading :: (Text.lines compiled).map fun l => "    ".toList ++ l

theorem report_eq (f : Fault) (compiled : List Char) :
    f.report compiled = preamble compiled ++ [f.verdict] := rfl

/-- **The diagnosis is a line of its own**: what is quoted is indented. -/
theorem verdict_notMem_preamble (f : Fault) (compiled : List Char) :
    f.verdict ∉ preamble compiled := by
  rw [preamble, List.mem_cons, List.mem_map, not_or]
  refine ⟨fun hheading => ?_, ?_⟩
  · have hhead := congrArg List.head? hheading
    rw [head?_verdict] at hhead
    exact absurd hhead (by decide)
  · rintro ⟨l, -, hline⟩
    have hhead : some ' ' = f.verdict.head? := congrArg List.head? hline
    rw [head?_verdict] at hhead
    exact absurd hhead (by decide)

end Fault

namespace Rejection

open Fault (heading)

/-- The first line that is not blank is the first one, if that is not. -/
theorem firstLine_cons {line : List Char} (hline : Text.trim line = line) (hne : line ≠ [])
    (rest : List (List Char)) : firstLine (line :: rest) = String.ofList line := by
  rw [firstLine, List.map_cons, hline, List.find?_cons_of_pos (by simpa using hne)]
  rfl

/-- The heading is the first line, whatever is quoted, -/
theorem firstLine_between (laid : List (List Char)) (f : Fault) :
    firstLine (heading :: laid ++ [f.verdict]) = String.ofList heading :=
  firstLine_cons (by decide) (by decide) _

theorem firstLine_report (f : Fault) (compiled : List Char) :
    firstLine (f.report compiled) = String.ofList heading :=
  firstLine_between _ f

/-- and the verdict is the last one. -/
theorem lastLine_between (laid : List (List Char)) (f : Fault) :
    lastLine (heading :: laid ++ [f.verdict]) = String.ofList f.verdict := by
  rw [lastLine, List.reverse_append]
  exact firstLine_cons f.trim_verdict f.verdict_ne_nil _

theorem lastLine_report (f : Fault) (compiled : List Char) :
    lastLine (f.report compiled) = String.ofList f.verdict :=
  lastLine_between _ f

/-! ## Kinds -/

/-- A delimiter that is left open makes a kind of its own. -/
theorem exists_of_openDelimiter? {kind : RejectionKind} (h : openDelimiter? source = some kind) :
    ∃ opener position, kind = .unclosedDelimiter opener position := by
  obtain ⟨⟨opener, closer⟩, -, h⟩ := List.exists_of_findSome?_eq_some h
  obtain ⟨position, -, rfl⟩ := Option.map_eq_some_iff.mp h
  exact ⟨opener, position, rfl⟩

/-- **What a report is condensed to**: at most one of its lines is told. -/
inductive Condensed (report : List (List Char)) : RejectionKind → Prop
  | unclosedDelimiter (opener : Char) (position : Nat) :
      Condensed report (.unclosedDelimiter opener position)
  | lookAround : Condensed report .lookAround
  | backreference : Condensed report .backreference
  | tooBig : Condensed report .tooBig
  | invalidQuantifier : Condensed report (.invalidQuantifier (firstLine report))
  | syntaxError : Condensed report (.syntaxError (lastLine report))

theorem condensed_classify (report : List (List Char)) (pattern : List Char) :
    Condensed report (classify report pattern) := by
  rw [classify]
  split
  · rename_i kind hkind
    split at hkind
    · obtain ⟨opener, position, rfl⟩ := exists_of_openDelimiter? hkind
      exact .unclosedDelimiter opener position
    · cases hkind
  · split
    · exact .lookAround
    · split
      · exact .backreference
      · split
        · exact .invalidQuantifier
        · exact .syntaxError

theorem condensed_ofFault (f : Fault) (compiled pattern : List Char) :
    Condensed (f.report compiled) (ofFault f compiled pattern).kind := by
  rw [ofFault]
  split
  · exact .tooBig
  · exact condensed_classify _ _

end Rejection

/-- **What is told of a fault.** A rejection for the syntax tells the diagnosis, the last line of
the report on the fault, which no line before it is, and so does its message. One
for a repetition tells the heading instead, the first line of the report, which is the
same for all faults. -/
theorem diagnosis_told {source : String} (hr : ofSource source = .error r) :
    ∃ (f : Fault) (compiled : List Char), RefusedFor source.toList f compiled ∧
      r.pattern = source ∧
      (∀ told : String, r.kind = .syntaxError told →
        told.toList = f.verdict ∧
        (∃ before, f.report compiled = before ++ [told.toList] ∧ told.toList ∉ before) ∧
        r.message = s!"invalid regular expression: {source} ({told})") ∧
      ∀ told : String, r.kind = .invalidQuantifier told →
        told.toList = Fault.heading ∧ (f.report compiled).head? = some told.toList ∧
        ∃ advice : String, Rejection.advice? r.kind = some advice ∧
          r.message = s!"invalid regular expression: {source} ({told}; {advice})" := by
  obtain ⟨f, compiled, hf, rfl⟩ := ofSource_eq_error_iff.mp hr
  have hpattern : (Rejection.ofFault f compiled source.toList).pattern = source :=
    String.ofList_toList
  have hcondensed := Rejection.condensed_ofFault f compiled source.toList
  refine ⟨f, compiled, hf, hpattern, fun told htold => ?_, fun told htold => ?_⟩
  · have hverdict : told.toList = f.verdict := by
      rw [htold] at hcondensed
      cases hcondensed
      rw [Rejection.lastLine_report, String.toList_ofList]
    refine ⟨hverdict, ⟨Fault.preamble compiled, ?_, ?_⟩, ?_⟩
    · rw [hverdict, Fault.report_eq]
    · rw [hverdict]
      exact f.verdict_notMem_preamble compiled
    · rw [Rejection.message, htold, hpattern]
      rfl
  · have hheading : told.toList = Fault.heading := by
      rw [htold] at hcondensed
      cases hcondensed
      rw [Rejection.firstLine_report, String.toList_ofList]
    refine ⟨hheading, by rw [hheading]; rfl, ?_⟩
    rw [Rejection.message, htold, hpattern]
    exact ⟨_, rfl, rfl⟩

/-- In a source of two lines a range that runs backwards is told by its diagnosis. -/
theorem diagnosis_told_of_two_lines :
    ∃ (r : Rejection) (told : String), ofSource "a\n[z-a]" = .error r ∧
      r.kind = .syntaxError told ∧
      told = "error: invalid character class range, the start must be <= the end" ∧
      r.message = "invalid regular expression: a\n[z-a] (error: invalid character class range, " ++
        "the start must be <= the end)" := by
  have hfault : compile "a\n[z-a]".toList = .error .classRangeInvalid := by rfl
  have hr : ofSource "a\n[z-a]" = .error
      (Rejection.ofFault .classRangeInvalid "a\n[z-a]".toList "a\n[z-a]".toList) :=
    ofSource_eq_error_iff.mpr ⟨_, _, .own hfault, rfl⟩
  have hkind : (Rejection.ofFault .classRangeInvalid "a\n[z-a]".toList "a\n[z-a]".toList).kind =
      .syntaxError "error: invalid character class range, the start must be <= the end" := by
    decide +kernel
  obtain ⟨f, compiled, -, -, hsyntax, -⟩ := diagnosis_told hr
  obtain ⟨-, -, hmessage⟩ := hsyntax _ hkind
  exact ⟨_, _, hr, hkind, rfl, hmessage⟩

/-- **Where there is nothing to repeat, the diagnosis is not told.** -/
theorem not_diagnosis_told : ¬ ∀ (source : String) (r : Rejection) (f : Fault)
    (compiled : List Char), ofSource source = .error r → RefusedFor source.toList f compiled →
      ∀ told : String, r.kind = .invalidQuantifier told ∨ r.kind = .syntaxError told →
        told.toList = f.verdict := by
  have hfault : compile "*abc".toList = .error .repetitionMissing := by rfl
  intro h
  have hr : ofSource "*abc" = .error
      (Rejection.ofFault .repetitionMissing "*abc".toList "*abc".toList) :=
    ofSource_eq_error_iff.mpr ⟨_, _, .own hfault, rfl⟩
  have hkind : (Rejection.ofFault .repetitionMissing "*abc".toList "*abc".toList).kind =
      .invalidQuantifier "regex parse error:" := by decide +kernel
  have htold := h "*abc" _ _ _ hr (.own hfault) _ (.inl hkind)
  revert htold
  decide

end Pattern

end LogSift
