import LogSift.Proofs.Script.Reading
/-!
# Lines on their own

A script is read line by line, and what a line is read as does not depend
on the others. So a script can be read iff each of its lines can be read
as a script of its own, and it is read as what these are read as, in
order; otherwise its fault is that of the first line that cannot be read,
with the number of that line (`parse_line_by_line`). Remarks, the blanks
at either end of a line, and the way in which lines end do not matter.
-/


namespace LogSift

/-! ## Line ends -/

namespace Text

/-- The text with a carriage return before each line feed. -/
def crlf (cs : List Char) : List Char := cs.flatMap fun c => if c = '\n' then ['\r', c] else [c]

/-- **The lines are the same** but for blanks at their ends. -/
theorem map_trim_linesFrom_crlf (line cs : List Char) :
    (linesFrom [] line (crlf cs)).map trim = (linesFrom [] line cs).map trim := by
  induction cs generalizing line with
  | nil => rfl
  | cons c cs ih =>
    by_cases hc : c = '\n'
    · -- the carriage return is taken off again where the line is closed
      subst hc
      have hclose : closeLine ('\r' :: line) = line.reverse := rfl
      rw [crlf, List.flatMap_cons, if_pos rfl, ← crlf, List.cons_append, List.cons_append,
        List.nil_append, linesFrom_cons (by decide), linesFrom_newline, linesFrom_newline,
        List.map_cons, List.map_cons, hclose, trim_closeLine]
      exact congrArg _ (ih [])
    · rw [crlf, List.flatMap_cons, if_neg hc, ← crlf, List.singleton_append, linesFrom_cons hc,
        linesFrom_cons hc]
      exact ih (c :: line)

end Text

namespace Script

variable {line : List Char} {ls ms before after : List (List Char)} {d : Directive}
variable {ds es : List Directive} {script other : String} {problem : Problem}

/-! ## Remarks -/

/-- The line is blank, or a comment. -/
def Remark (line : List Char) : Prop :=
  Text.trim line = [] ∨ (Text.trim line).head? = some '#'

/-- **Just remarks have no directive.** -/
theorem parseLine_eq_none_iff : parseLine (String.ofList line) = .ok none ↔ Remark line := by
  have hscan : Scanner.ofLine (String.ofList line) = none ↔ Remark line := by
    by_cases hcomment : (Text.trim line).head? = some '#'
    · simp [Scanner.ofLine, Remark, hcomment]
    · simp [Scanner.ofLine, Remark, hcomment, Scanner.word?, Scanner.isDone]
  rw [← hscan, parseLine]
  rcases Scanner.ofLine (String.ofList line) with _ | ⟨op, s⟩
  · simp
  · -- what has an operator is read as a directive, or cannot be read
    rcases hentry : Registry.find? op with _ | entry
    · simp [hentry]
    · rcases hsetup : entry.setup s with problem | d
      · simp [hentry, hsetup, bind, Except.bind]
      · simp [hentry, hsetup, bind, Except.bind, pure, Except.pure]

/-- A line is read alike whatever blanks stand at its ends. -/
theorem parseLine_congr {other : List Char} (h : Text.trim line = Text.trim other) :
    parseLine (String.ofList line) = parseLine (String.ofList other) := by
  rw [← parseLine_trim line, h, parseLine_trim other]

/-! ## One line after the other -/

theorem parseFrom_cons_of_error {n : Nat} (h : parseLine (String.ofList line) = .error problem) :
    parseFrom n (line :: ls) = .error ⟨n, String.ofList (Text.trim line), problem⟩ := by
  simp only [parseFrom, h]

theorem parseFrom_cons_of_ok {n : Nat} {d? : Option Directive}
    (h : parseLine (String.ofList line) = .ok d?) :
    parseFrom n (line :: ls) = (parseFrom (n + 1) ls).map (d?.toList ++ ·) := by
  cases d? with
  | none =>
    simp only [parseFrom, h]
    cases parseFrom (n + 1) ls <;> rfl
  | some d =>
    simp only [parseFrom, h]
    cases parseFrom (n + 1) ls <;> rfl

/-- **A line on its own** is a script of one line. -/
theorem parse_ofList (hline : '\n' ∉ line) :
    parse (String.ofList line) =
      match parseLine (String.ofList line) with
      | .error problem => .error ⟨1, String.ofList (Text.trim line), problem⟩
      | .ok d? => .ok d?.toList := by
  rw [parse, String.toList_ofList, Text.lines_of_notMem hline]
  cases line with
  | nil => rfl
  | cons c line =>
    rw [List.isEmpty_cons, if_neg (by decide)]
    rcases h : parseLine (String.ofList (c :: line)) with problem | d?
    · exact parseFrom_cons_of_error h
    · rw [parseFrom_cons_of_ok h]
      simp [parseFrom, Except.map]

theorem parse_ofList_eq_ok_iff (hline : '\n' ∉ line) :
    parse (String.ofList line) = .ok ds ↔
      ∃ d?, parseLine (String.ofList line) = .ok d? ∧ ds = d?.toList := by
  rw [parse_ofList hline]
  rcases parseLine (String.ofList line) with problem | d?
  · simp
  · simp [eq_comm]

theorem exists_parse_ofList_eq_ok_iff (hline : '\n' ∉ line) :
    (∃ es, parse (String.ofList line) = .ok es) ↔
      ∃ d?, parseLine (String.ofList line) = .ok d? := by
  simp only [parse_ofList_eq_ok_iff hline]
  exact ⟨fun ⟨_, d?, hread, _⟩ => ⟨d?, hread⟩, fun ⟨d?, hread⟩ => ⟨_, d?, hread, rfl⟩⟩

theorem parse_ofList_eq_error_iff (hline : '\n' ∉ line) {fault : ScriptFault} :
    parse (String.ofList line) = .error fault ↔
      ∃ problem, parseLine (String.ofList line) = .error problem ∧
        fault = ⟨1, String.ofList (Text.trim line), problem⟩ := by
  rw [parse_ofList hline]
  rcases parseLine (String.ofList line) with problem | d?
  · simp [eq_comm]
  · simp

/-- A line on its own is read as nothing, if it is a remark, and otherwise as
one directive, if at all. -/
theorem parse_ofList_remark (hline : '\n' ∉ line) (hremark : Remark line) :
    parse (String.ofList line) = .ok [] :=
  (parse_ofList_eq_ok_iff hline).mpr ⟨none, parseLine_eq_none_iff.mpr hremark, rfl⟩

theorem exists_of_parse_ofList (hline : '\n' ∉ line) (hremark : ¬ Remark line)
    (h : parse (String.ofList line) = .ok ds) : ∃ d, ds = [d] := by
  obtain ⟨_ | d, hread, rfl⟩ := (parse_ofList_eq_ok_iff hline).mp h
  · exact absurd (parseLine_eq_none_iff.mp hread) hremark
  · exact ⟨d, rfl⟩

/-! ## The lines of a script -/

theorem parseFrom_cons_eq_ok_iff {n : Nat} :
    parseFrom n (line :: ls) = .ok ds ↔
      ∃ d? es, parseLine (String.ofList line) = .ok d? ∧ parseFrom (n + 1) ls = .ok es ∧
        ds = d?.toList ++ es := by
  rcases hread : parseLine (String.ofList line) with problem | d?
  · simp [parseFrom_cons_of_error hread]
  · rw [parseFrom_cons_of_ok hread]
    cases parseFrom (n + 1) ls <;> simp [Except.map, eq_comm]

/-- **A script is read as its lines are**, one after the other. -/
theorem parseFrom_eq_ok_iff_parts {n : Nat} (hls : ∀ line ∈ ls, '\n' ∉ line) :
    parseFrom n ls = .ok ds ↔
      ∃ parts : List (List Directive),
        ls.map (fun line => parse (String.ofList line)) = parts.map .ok ∧ ds = parts.flatten := by
  induction ls generalizing n ds with
  | nil => simp [parseFrom, eq_comm]
  | cons line ls ih =>
    obtain ⟨hline, hls⟩ := List.forall_mem_cons.mp hls
    rw [parseFrom_cons_eq_ok_iff]
    constructor
    · rintro ⟨d?, es, hread, hrest, rfl⟩
      obtain ⟨parts, hparts, rfl⟩ := (ih hls).mp hrest
      have hpart := (parse_ofList_eq_ok_iff hline).mpr ⟨d?, hread, rfl⟩
      exact ⟨d?.toList :: parts, by rw [List.map_cons, List.map_cons, hpart, hparts], rfl⟩
    · rintro ⟨_ | ⟨part, parts⟩, hparts, rfl⟩
      · cases hparts
      · obtain ⟨hpart, hrest⟩ := List.cons.inj hparts
        obtain ⟨d?, hread, rfl⟩ := (parse_ofList_eq_ok_iff hline).mp hpart
        exact ⟨d?, parts.flatten, hread, (ih hls).mpr ⟨parts, hrest, rfl⟩, rfl⟩

/-- Lines that can be read pass on the fault of those after them. -/
theorem parseFrom_append_eq_error_iff {n : Nat} {fault : ScriptFault}
    (hbefore : ∀ l ∈ before, ∃ d?, parseLine (String.ofList l) = .ok d?) :
    parseFrom n (before ++ ls) = .error fault ↔
      parseFrom (n + before.length) ls = .error fault := by
  induction before generalizing n with
  | nil => rfl
  | cons line before ih =>
    obtain ⟨⟨d?, hread⟩, hbefore⟩ := List.forall_mem_cons.mp hbefore
    have hpass : parseFrom n (line :: (before ++ ls)) = .error fault ↔
        parseFrom (n + 1) (before ++ ls) = .error fault := by
      rw [parseFrom_cons_of_ok hread]
      cases parseFrom (n + 1) (before ++ ls) <;> simp [Except.map]
    rw [List.cons_append, hpass, ih hbefore, List.length_cons, Nat.add_right_comm, Nat.add_assoc]

/-- Lines that cannot be read as a script have a first that cannot be read. -/
theorem exists_first_unreadable {n : Nat} {fault : ScriptFault}
    (h : parseFrom n ls = .error fault) :
    ∃ before line after problem, ls = before ++ line :: after ∧
      (∀ l ∈ before, ∃ d?, parseLine (String.ofList l) = .ok d?) ∧
      parseLine (String.ofList line) = .error problem := by
  induction ls generalizing n with
  | nil => cases h
  | cons line ls ih =>
    rcases hread : parseLine (String.ofList line) with problem | d?
    · exact ⟨[], line, ls, problem, rfl, List.forall_mem_nil _, hread⟩
    · have hline : ∀ l ∈ [line], ∃ d?, parseLine (String.ofList l) = .ok d? :=
        List.forall_mem_singleton.mpr ⟨d?, hread⟩
      obtain ⟨before, other, after, problem, rfl, hbefore, hother⟩ :=
        ih ((parseFrom_append_eq_error_iff hline).mp h)
      exact ⟨line :: before, other, after, problem, rfl,
        List.forall_mem_cons.mpr ⟨⟨d?, hread⟩, hbefore⟩, hother⟩

/-- **The fault of a script** is that of the first line that cannot be read. -/
theorem parseFrom_eq_error_iff {n : Nat} {fault : ScriptFault} :
    parseFrom n ls = .error fault ↔
      ∃ before line after problem, ls = before ++ line :: after ∧
        (∀ l ∈ before, ∃ d?, parseLine (String.ofList l) = .ok d?) ∧
        parseLine (String.ofList line) = .error problem ∧
        fault = ⟨n + before.length, String.ofList (Text.trim line), problem⟩ := by
  constructor
  · intro h
    obtain ⟨before, line, after, problem, rfl, hbefore, hline⟩ := exists_first_unreadable h
    rw [parseFrom_append_eq_error_iff hbefore, parseFrom_cons_of_error hline] at h
    exact ⟨before, line, after, problem, rfl, hbefore, hline, (Except.error.inj h).symm⟩
  · rintro ⟨before, line, after, problem, rfl, hbefore, hline, rfl⟩
    rw [parseFrom_append_eq_error_iff hbefore, parseFrom_cons_of_error hline]

/-- The same, told by how the lines are read on their own. -/
theorem parseFrom_eq_error_iff_alone {n : Nat} {fault : ScriptFault}
    (hls : ∀ line ∈ ls, '\n' ∉ line) :
    parseFrom n ls = .error fault ↔
      ∃ before line after problem, ls = before ++ line :: after ∧
        (∀ l ∈ before, ∃ es, parse (String.ofList l) = .ok es) ∧
        parse (String.ofList line) = .error ⟨1, String.ofList (Text.trim line), problem⟩ ∧
        fault = ⟨n + before.length, String.ofList (Text.trim line), problem⟩ := by
  rw [parseFrom_eq_error_iff]
  refine exists_congr fun before => exists_congr fun line => exists_congr fun after =>
    exists_congr fun problem => and_congr_right fun hsplit => ?_
  subst hsplit
  have hreadable : ∀ l ∈ before, ((∃ d?, parseLine (String.ofList l) = .ok d?) ↔
      ∃ es, parse (String.ofList l) = .ok es) := fun l hl =>
    (exists_parse_ofList_eq_ok_iff (hls l (List.mem_append_left _ hl))).symm
  have hline : '\n' ∉ line := hls line (List.mem_append_right _ List.mem_cons_self)
  have hfirst : parse (String.ofList line) = .error ⟨1, String.ofList (Text.trim line), problem⟩ ↔
      parseLine (String.ofList line) = .error problem := by
    simp [parse_ofList_eq_error_iff hline]
  rw [hfirst]
  exact and_congr_left fun _ => forall_congr' fun l => forall_congr' fun hl => hreadable l hl

/-- The sentence for a fault leads with the number of the line and its text. -/
theorem exists_message_eq (fault : ScriptFault) :
    ∃ cause, fault.message =
      s!"FAILED TO PARSE DIRECTIVE: line {fault.number}: {fault.text}" ++ cause := by
  rw [ScriptFault.message]
  split
  · exact ⟨_, String.append_assoc⟩
  · exact ⟨_, String.append_assoc⟩

/-! ## Layout -/

/-- **The lines are laid out anew**: remarks come and go, and so do blanks at
the ends of a line. -/
inductive Reformats : List (List Char) → List (List Char) → Prop
  | nil : Reformats [] []
  | line {line other : List Char} {ls ms : List (List Char)} :
      Text.trim line = Text.trim other → Reformats ls ms → Reformats (line :: ls) (other :: ms)
  | added {line : List Char} {ls ms : List (List Char)} :
      Remark line → Reformats ls ms → Reformats ls (line :: ms)
  | removed {line : List Char} {ls ms : List (List Char)} :
      Remark line → Reformats ls ms → Reformats (line :: ls) ms

/-- What is read, or what is wrong and with which text, wherever that stands. -/
def unnumbered (result : Except ScriptFault (List Directive)) :
    Except (String × Problem) (List Directive) :=
  result.mapError fun fault => (fault.text, fault.problem)

theorem unnumbered_cons_of_ok {n : Nat} {d? : Option Directive}
    (h : parseLine (String.ofList line) = .ok d?) :
    unnumbered (parseFrom n (line :: ls)) =
      (unnumbered (parseFrom (n + 1) ls)).map (d?.toList ++ ·) := by
  rw [parseFrom_cons_of_ok h]
  cases parseFrom (n + 1) ls <;> rfl

theorem unnumbered_cons_of_remark {n : Nat} (h : Remark line) :
    unnumbered (parseFrom n (line :: ls)) = unnumbered (parseFrom (n + 1) ls) := by
  rw [unnumbered_cons_of_ok (parseLine_eq_none_iff.mpr h)]
  cases unnumbered (parseFrom (n + 1) ls) <;> rfl

/-- **The layout does not matter** but for the number of the line at fault. -/
theorem Reformats.unnumbered_eq (h : Reformats ls ms) (n m : Nat) :
    unnumbered (parseFrom n ls) = unnumbered (parseFrom m ms) := by
  induction h generalizing n m with
  | nil => rfl
  | @line line other ls ms htrim _ ih =>
    rcases hread : parseLine (String.ofList line) with problem | d?
    · have hother := (parseLine_congr htrim).symm.trans hread
      rw [parseFrom_cons_of_error hread, parseFrom_cons_of_error hother, htrim]
      rfl
    · have hother := (parseLine_congr htrim).symm.trans hread
      rw [unnumbered_cons_of_ok hread, unnumbered_cons_of_ok hother, ih (n + 1) (m + 1)]
  | added hremark _ ih => rw [unnumbered_cons_of_remark hremark, ih n (m + 1)]
  | removed hremark _ ih => rw [unnumbered_cons_of_remark hremark, ih (n + 1) m]

/-- Lines that are trimmed alike are read alike, each at its number. -/
theorem parseFrom_congr (h : ls.map Text.trim = ms.map Text.trim) (n : Nat) :
    parseFrom n ls = parseFrom n ms := by
  induction ls generalizing ms n with
  | nil => rw [List.map_eq_nil_iff.mp h.symm]
  | cons line ls ih =>
    obtain ⟨other, ms', rfl, hother, hms⟩ := List.map_eq_cons_iff.mp h.symm
    rcases hread : parseLine (String.ofList line) with problem | d?
    · have hread' := (parseLine_congr hother).trans hread
      rw [parseFrom_cons_of_error hread, parseFrom_cons_of_error hread', hother]
    · have hread' := (parseLine_congr hother).trans hread
      rw [parseFrom_cons_of_ok hread, parseFrom_cons_of_ok hread', ih hms.symm]

/-- **A script is read line by line.** It can be read iff each of its lines
can be read as a script of its own, and it is read as what these are read
as, in order: a remark as nothing and any other line as one directive.
Otherwise its fault is that of the first line that cannot be read, with
the number of that line and its trimmed text, with which its message
leads. Remarks and the blanks at the ends of a line do not matter but for
that number, and whether lines end with a line feed alone not even there. -/
theorem parse_line_by_line (script : String) :
    ((∃ ds, parse script = .ok ds) ↔
        ∀ line ∈ Text.lines script.toList, ∃ es, parse (String.ofList line) = .ok es) ∧
      (∀ ds, parse script = .ok ds ↔
        ∃ parts : List (List Directive),
          (Text.lines script.toList).map (fun line => parse (String.ofList line)) =
            parts.map .ok ∧ ds = parts.flatten) ∧
      (∀ line ∈ Text.lines script.toList,
        (Remark line → parse (String.ofList line) = .ok []) ∧
          (¬ Remark line → ∀ es, parse (String.ofList line) = .ok es → ∃ d, es = [d])) ∧
      (∀ fault, parse script = .error fault ↔
        ∃ before line after problem, Text.lines script.toList = before ++ line :: after ∧
          (∀ l ∈ before, ∃ es, parse (String.ofList l) = .ok es) ∧
          parse (String.ofList line) = .error ⟨1, String.ofList (Text.trim line), problem⟩ ∧
          fault = ⟨1 + before.length, String.ofList (Text.trim line), problem⟩) ∧
      (∀ fault, parse script = .error fault → ∃ cause, fault.message =
        s!"FAILED TO PARSE DIRECTIVE: line {fault.number}: {fault.text}" ++ cause) ∧
      (∀ other : String, Reformats (Text.lines script.toList) (Text.lines other.toList) →
        unnumbered (parse other) = unnumbered (parse script)) ∧
      parse (String.ofList (Text.crlf script.toList)) = parse script := by
  have hls : ∀ line ∈ Text.lines script.toList, '\n' ∉ line := Text.notMem_of_mem_lines
  have hok : ∀ ds, parse script = .ok ds ↔ _ := fun ds => parseFrom_eq_ok_iff_parts hls
  have herror : ∀ fault, parse script = .error fault ↔ _ := fun fault =>
    parseFrom_eq_error_iff_alone hls
  refine ⟨⟨?_, fun hreadable => ?_⟩, hok, fun line hline => ?_, herror, fun fault _ => ?_,
    fun other h => ?_, ?_⟩
  · rintro ⟨ds, hds⟩ line hline
    obtain ⟨parts, hparts, -⟩ := (hok ds).mp hds
    have hmem : parse (String.ofList line) ∈ parts.map .ok :=
      hparts ▸ List.mem_map_of_mem hline
    obtain ⟨part, -, hpart⟩ := List.mem_map.mp hmem
    exact ⟨part, hpart.symm⟩
  · rcases hparse : parse script with fault | ds
    · obtain ⟨before, line, after, problem, hsplit, -, halone, -⟩ := (herror fault).mp hparse
      obtain ⟨es, hes⟩ := hreadable line (by simp [hsplit])
      rw [halone] at hes
      cases hes
    · exact ⟨ds, rfl⟩
  · exact ⟨parse_ofList_remark (hls line hline),
      fun hremark es => exists_of_parse_ofList (hls line hline) hremark⟩
  · exact exists_message_eq fault
  · exact (h.unnumbered_eq 1 1).symm
  · rw [parse, parse, String.toList_ofList]
    exact parseFrom_congr (Text.map_trim_linesFrom_crlf [] script.toList) 1

/-- A script with a comment and a blank line is laid out anew, and with other
line ends; one with two lines that cannot be read fails at the first. -/
theorem parse_line_by_line_of_layout :
    Reformats (Text.lines "# cut\n\n  chop\nlimit 1 \n".toList)
        (Text.lines "chop\r\nlimit 1\n# done".toList) ∧
      unnumbered (parse "chop\r\nlimit 1\n# done") = .ok [.chop, .limit 1] ∧
      parse (String.ofList (Text.crlf "# cut\n\n  chop\nlimit 1 \n".toList)) =
        .ok [.chop, .limit 1] ∧
      ∃ fault cause, parse "chop\n\n limit x \nnope\n" = .error fault ∧
        fault.message = "FAILED TO PARSE DIRECTIVE: line 3: limit x" ++ cause := by
  have hparse : parse "# cut\n\n  chop\nlimit 1 \n" = .ok [.chop, .limit 1] := by rfl
  have hlines : Text.lines "# cut\n\n  chop\nlimit 1 \n".toList =
      ["# cut".toList, [], "  chop".toList, "limit 1 ".toList] := by rfl
  have hother : Text.lines "chop\r\nlimit 1\n# done".toList =
      ["chop".toList, "limit 1".toList, "# done".toList] := by rfl
  have hlayout : Reformats (Text.lines "# cut\n\n  chop\nlimit 1 \n".toList)
      (Text.lines "chop\r\nlimit 1\n# done".toList) := by
    rw [hlines, hother]
    exact .removed (Or.inr (by rfl)) (.removed (Or.inl (by rfl))
      (.line (by rfl) (.line (by rfl) (.added (Or.inr (by rfl)) .nil))))
  obtain ⟨-, -, -, -, -, hreformatted, hcrlf⟩ :=
    parse_line_by_line "# cut\n\n  chop\nlimit 1 \n"
  obtain ⟨-, -, -, hfault, hmessage, -⟩ := parse_line_by_line "chop\n\n limit x \nnope\n"
  refine ⟨hlayout, ?_, hcrlf.trans hparse, ?_⟩
  · rw [hreformatted _ hlayout, hparse]
    rfl
  · -- of the two lines that cannot be read it is the first that fails the script
    have hchop : parse (String.ofList "chop".toList) = .ok [.chop] := by rfl
    have hblank : parse (String.ofList []) = .ok [] := by rfl
    have hbefore : ∀ l ∈ ["chop".toList, []], ∃ es, parse (String.ofList l) = .ok es :=
      List.forall_mem_cons.mpr ⟨⟨_, hchop⟩, List.forall_mem_singleton.mpr ⟨_, hblank⟩⟩
    have hfirst : parse "chop\n\n limit x \nnope\n" = .error _ :=
      (hfault _).mpr ⟨["chop".toList, []], " limit x ".toList, ["nope".toList], _, by rfl,
        hbefore, by rfl, rfl⟩
    obtain ⟨cause, hcause⟩ := hmessage _ hfirst
    exact ⟨_, cause, hfirst, hcause⟩

end Script

end LogSift
