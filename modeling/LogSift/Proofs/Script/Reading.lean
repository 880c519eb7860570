import LogSift.Proofs.Script.Steps
import LogSift.Proofs.Text.Lines
/-!
# Reading, line by line

What a script is read as is told by its content alone: each line of the
content is read on its own, as a directive or as a comment
(`parse_eq_ok_iff`). So a script joined from two is read as the first and
then the second (`Accepted.join`), and any piece of a script can be read
apart from the others.
-/


namespace LogSift

namespace Script

variable {line : List Char} {ls more : List (List Char)} {d : Directive}
variable {ds es : List Directive} {script a b : String}

/-! ## Lines -/

/-- Nothing is read of a blank line. -/
theorem parseLine_of_blank (h : Text.trim line = []) :
    parseLine (String.ofList line) = .ok none := by
  have hscan : Scanner.ofLine (String.ofList line) = none := by
    simp [Scanner.ofLine, h, Scanner.word?, Scanner.isDone]
  simp only [parseLine, hscan]

/-- A line is read as its trimmed text is. -/
theorem parseLine_trim (line : List Char) :
    parseLine (String.ofList (Text.trim line)) = parseLine (String.ofList line) := by
  have hscan : Scanner.ofLine (String.ofList (Text.trim line)) =
      Scanner.ofLine (String.ofList line) := by
    simp [Scanner.ofLine]
  simp only [parseLine, hscan]

/-- **Lines are read as directives**: each as one, or, if it is a comment,
as none. -/
inductive Reads : List (List Char) → List Directive → Prop
  | nil : Reads [] []
  | skip {line : List Char} {ls : List (List Char)} {ds : List Directive} :
      parseLine (String.ofList line) = .ok none → Reads ls ds → Reads (line :: ls) ds
  | read {line : List Char} {ls : List (List Char)} {d : Directive} {ds : List Directive} :
      parseLine (String.ofList line) = .ok (some d) → Reads ls ds → Reads (line :: ls) (d :: ds)

theorem reads_nil : Reads [] ds ↔ ds = [] :=
  ⟨fun h => by cases h; rfl, fun h => h ▸ .nil⟩

theorem reads_cons :
    Reads (line :: ls) ds ↔
      (parseLine (String.ofList line) = .ok none ∧ Reads ls ds) ∨
        ∃ d es, ds = d :: es ∧ parseLine (String.ofList line) = .ok (some d) ∧ Reads ls es := by
  constructor
  · intro h
    cases h with
    | skip hline hrest => exact Or.inl ⟨hline, hrest⟩
    | read hline hrest => exact Or.inr ⟨_, _, rfl, hline, hrest⟩
  · rintro (⟨hline, hrest⟩ | ⟨d, es, rfl, hline, hrest⟩)
    · exact .skip hline hrest
    · exact .read hline hrest

/-- A line given as a text is read first. -/
theorem Reads.text {line : String} (hline : parseLine line = .ok (some d)) (hrest : Reads ls ds) :
    Reads (line.toList :: ls) (d :: ds) :=
  .read (by rwa [String.ofList_toList]) hrest

theorem Reads.append (h : Reads ls ds) (hmore : Reads more es) : Reads (ls ++ more) (ds ++ es) := by
  induction h with
  | nil => exact hmore
  | skip hline _ ih => exact .skip hline ih
  | read hline _ ih => exact .read hline ih

/-- Some of the lines are read as some of the directives, and the other lines
as the others. -/
theorem Reads.exists_append (h : Reads (ls ++ more) ds) :
    ∃ first second, ds = first ++ second ∧ Reads ls first ∧ Reads more second := by
  induction ls generalizing ds with
  | nil => exact ⟨[], ds, rfl, .nil, h⟩
  | cons line ls ih =>
    cases h with
    | skip hline hrest =>
      obtain ⟨first, second, hds, hfirst, hsecond⟩ := ih hrest
      exact ⟨first, second, hds, .skip hline hfirst, hsecond⟩
    | @read _ _ d _ hline hrest =>
      obtain ⟨first, second, rfl, hfirst, hsecond⟩ := ih hrest
      exact ⟨d :: first, second, rfl, .read hline hfirst, hsecond⟩

/-- Each of the lines can be read. -/
theorem Reads.exists_of_mem (h : Reads ls ds) (hline : line ∈ ls) :
    ∃ d?, parseLine (String.ofList line) = .ok d? := by
  induction h with
  | nil => cases hline
  | skip hfirst _ ih | read hfirst _ ih =>
    rcases List.mem_cons.mp hline with rfl | hline
    · exact ⟨_, hfirst⟩
    · exact ih hline

/-- Each of the directives is that of a line. -/
theorem Reads.exists_line_of_mem (h : Reads ls ds) (hd : d ∈ ds) :
    ∃ line ∈ ls, parseLine (String.ofList line) = .ok (some d) := by
  induction h with
  | nil => cases hd
  | skip _ _ ih =>
    obtain ⟨line, hline, hread⟩ := ih hd
    exact ⟨line, List.mem_cons_of_mem _ hline, hread⟩
  | read hfirst _ ih =>
    rcases List.mem_cons.mp hd with rfl | hd
    · exact ⟨_, List.mem_cons_self, hfirst⟩
    · obtain ⟨line, hline, hread⟩ := ih hd
      exact ⟨line, List.mem_cons_of_mem _ hline, hread⟩

/-! ## Scripts -/

/-- Reading lines, whatever their numbers, is reading their content. -/
theorem parseFrom_eq_ok_iff {n : Nat} : parseFrom n ls = .ok ds ↔ Reads (Text.contentOf ls) ds := by
  induction ls generalizing n ds with
  | nil => rw [parseFrom, Text.contentOf_nil, reads_nil, Except.ok.injEq, eq_comm]
  | cons line ls ih =>
    by_cases hblank : Text.trim line = []
    · rw [Text.contentOf_cons_of_blank hblank, ← ih (n := n + 1)]
      simp only [parseFrom, parseLine_of_blank hblank]
    · rw [Text.contentOf_cons hblank, reads_cons, parseLine_trim]
      rcases hline : parseLine (String.ofList line) with problem | _ | d
      · simp [parseFrom, hline]
      · simp [parseFrom, hline, ih]
      · -- the other lines are read after this one
        simp only [← ih (n := n + 1)]
        rcases hrest : parseFrom (n + 1) ls with fault | es
        · simp [parseFrom, hline, hrest, bind, Except.bind]
        · simp [parseFrom, hline, hrest, bind, Except.bind, pure, Except.pure, eq_comm]

/-- **A script is read from its content.** -/
theorem parse_eq_ok_iff : parse script = .ok ds ↔ Reads (Text.content script.toList) ds :=
  parseFrom_eq_ok_iff

/-- **A script joined from two** is read as the first and then the second. -/
theorem Accepted.join (ha : Accepted a ds) (hb : Accepted b es) :
    Accepted (a ++ "\n" ++ b) (ds ++ es) := by
  refine ⟨parse_eq_ok_iff.mpr ?_, by simp [ha.nonempty], ?_⟩
  · have hjoined : (a ++ "\n" ++ b).toList = a.toList ++ '\n' :: b.toList := by simp
    rw [hjoined, Text.content_append]
    exact (parse_eq_ok_iff.mp ha.parsed).append (parse_eq_ok_iff.mp hb.parsed)
  · rw [firstInvalid?_eq_none_iff]
    intro d hd
    rcases List.mem_append.mp hd with hd | hd
    · exact firstInvalid?_eq_none_iff.mp ha.valid d hd
    · exact firstInvalid?_eq_none_iff.mp hb.valid d hd

end Script

end LogSift
