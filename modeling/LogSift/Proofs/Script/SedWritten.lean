import LogSift.Proofs.Pattern.Spans
import LogSift.Proofs.Script.SedText
/-!
# Stream edits are read as they are written

A stream edit that has been read can be written in one way for each choice
of the blanks between its address and its action, and is read again from
that (`setup_round_trip`). A text in which something is missing or left
over is refused, with the problem that names it (`Refused`).
-/


namespace LogSift

namespace Sed

open Text (Numeral trimStart trimEnd)
open Scanner (WellEscaped enclosed isDelimiter literals?_eq_some_iff)

variable {line : String} {s left : Scanner} {a : Option Address} {act : SedAction} {op d : Char}
  {addr txt rest gap body : List Char} {problem : Problem}

/-! ## Writing -/

/-- An address as it is written. -/
def writtenAddress : Option Address → List Char
  | some ⟨some (n, m), _⟩ =>
    if n = m then Nat.toDigits 10 n else Nat.toDigits 10 n ++ ',' :: Nat.toDigits 10 m
  | some ⟨none, some p⟩ => enclosed '/' [p.source.toList]
  | _ => []

/-- An action as it is written, a replacement with a delimiter. -/
def writtenAction (d : Char) : SedAction → List Char
  | .filter .remove => ['-']
  | .filter .add => ['+']
  | .filter _ => ['~']
  | .delete => ['d']
  | .replace p replacement all =>
    's' :: (enclosed d [p.source.toList, replacement.toList] ++ if all then ['g'] else [])
  | .change t => 'c' :: ' ' :: t.toList
  | .insert t => 'i' :: ' ' :: t.toList
  | .append t => 'a' :: ' ' :: t.toList

/-- **A stream edit as it is written**, with blanks of one's choice between
the address and the action. -/
def written (gap : List Char) (d : Char) (a : Option Address) (act : SedAction) : String :=
  "sed " ++ String.ofList (writtenAddress a ++ (gap ++ writtenAction d act))

/-- The delimiter of a replacement. -/
def delimiterOf : List Char → Option Char
  | 's' :: rest => (trimStart rest).head?
  | _ => none

/-- The delimiter that a stream edit has behind its `s`. -/
def delimiter? (s : Scanner) : Option Char :=
  match address s with
  | .ok (_, left) => delimiterOf left.rest
  | .error _ => none

/-! ## What is written -/

theorem blanks_space : Blanks [' '] := by
  simp only [Blanks, List.mem_singleton, forall_eq]
  decide

theorem source_of_pattern {source : String} {p : Pattern} (h : Sed.pattern source = .ok p) :
    p.source = source := by
  rw [Sed.pattern] at h
  rcases hp : Pattern.ofSource source with rejection | q
  · rw [hp] at h
    cases h
  · rw [hp] at h
    obtain rfl := Except.ok.inj h
    rw [Pattern.ofSource] at hp
    repeat' split at hp
    all_goals cases hp
    rfl

/-- Digits are not trimmed at their start. -/
theorem trimStart_numeral {ds : List Char} {n : Nat} (h : Numeral ds n) (cs : List Char) :
    trimStart (ds ++ cs) = ds ++ cs := by
  obtain ⟨c, ds, rfl⟩ := List.exists_cons_of_ne_nil h.ne_nil
  exact Text.trimStart_cons_of_bare (Unicode.isBlank_of_isDigit (h.digits c List.mem_cons_self)) _

/-- **An address is written as a text of it.** Blanks behind no address are
not a part of that. -/
theorem AddressText.written (h : AddressText addr a) (hgap : Blanks gap) (hop : op ∈ letters)
    (rest : List Char) :
    ∃ addr', AddressText addr' a ∧
      trimStart (writtenAddress a ++ (gap ++ op :: rest)) = addr' ++ op :: rest := by
  obtain ⟨hblank, -⟩ := bare_of_mem_letters hop
  cases h with
  | none =>
    refine ⟨[], .none, ?_⟩
    rw [show writtenAddress Option.none = [] from rfl, List.nil_append, List.nil_append,
      Text.trimStart_append hgap, Text.trimStart_cons_of_bare hblank]
  | @line ds gap' n hn _ =>
    have hwritten := Text.numeral_toDigits hn.le
    refine ⟨Nat.toDigits 10 n ++ gap, .line hwritten hgap, ?_⟩
    rw [Address.lines, writtenAddress, if_pos rfl, trimStart_numeral hwritten, List.append_assoc]
  | @lines ds es gap' n m hn hm hle _ =>
    have hfirst := Text.numeral_toDigits hn.le
    have hlast := Text.numeral_toDigits hm.le
    by_cases hnm : n = m
    · subst hnm
      refine ⟨Nat.toDigits 10 n ++ gap, .line hfirst hgap, ?_⟩
      rw [Address.lines, writtenAddress, if_pos rfl, trimStart_numeral hfirst, List.append_assoc]
    · refine ⟨Nat.toDigits 10 n ++ ',' :: (Nat.toDigits 10 m ++ gap),
        .lines hfirst hlast hle hgap, ?_⟩
      rw [Address.lines, writtenAddress, if_neg hnm, List.append_assoc, trimStart_numeral hfirst]
      simp
  | @matching source gap' p hwell hp _ =>
    refine ⟨enclosed '/' [source.toList] ++ gap, .matching hwell hp hgap, ?_⟩
    rw [Address.matching, writtenAddress, source_of_pattern hp, List.append_assoc]
    exact Text.trimStart_cons_of_bare (by decide) _

theorem writtenAction_bare (h : (op, act) ∈ bareActions) (d : Char) :
    writtenAction d act = [op] := by
  simp only [bareActions, List.mem_cons, Prod.mk.injEq, List.not_mem_nil, or_false] at h
  rcases h with ⟨rfl, rfl⟩ | ⟨rfl, rfl⟩ | ⟨rfl, rfl⟩ | ⟨rfl, rfl⟩ <;> rfl

theorem writtenAction_text {what t : String} {make : String → SedAction}
    (h : (op, what, make) ∈ textActions) (d : Char) :
    writtenAction d (make t) = op :: ' ' :: t.toList := by
  simp only [textActions, List.mem_cons, Prod.mk.injEq, List.not_mem_nil, or_false] at h
  rcases h with ⟨rfl, -, rfl⟩ | ⟨rfl, -, rfl⟩ | ⟨rfl, -, rfl⟩ <;> rfl

theorem delimiterOf_replace (hgap : Blanks gap) (hd : isDelimiter d = true)
    (bodies : List (List Char)) (tail : List Char) :
    delimiterOf ('s' :: (gap ++ (enclosed d bodies ++ tail))) = some d := by
  rw [delimiterOf, Text.trimStart_append hgap]
  exact congrArg List.head? (Text.trimStart_cons_of_bare (Scanner.isBlank_of_isDelimiter hd) _)

/-- **An action is written as a text of it**, a replacement with the delimiter
that it has been read with. -/
theorem ActionText.written (h : ActionText txt act) :
    ActionText (writtenAction ((delimiterOf txt).getD '/') act) act := by
  cases h with
  | bare hop _ =>
    rw [writtenAction_bare hop]
    exact .bare hop .nil
  | text hop _ hne htrim =>
    have hwritten := ActionText.text hop blanks_space hne htrim
    rwa [writtenAction_text hop]
  | replace hgap hd hsource hreplacement hp _ =>
    rw [delimiterOf_replace hgap hd, Option.getD_some, writtenAction, source_of_pattern hp]
    exact ActionText.replace .nil hd hsource hreplacement hp .nil

/-- What is written for an action does not end with a blank, if its text has
not. -/
theorem trimEnd_writtenAction (h : ActionText txt act) (htrim : trimEnd txt = txt) :
    trimEnd (writtenAction ((delimiterOf txt).getD '/') act) =
      writtenAction ((delimiterOf txt).getD '/') act := by
  cases h with
  | @bare op act gap hop hgap =>
    rw [writtenAction_bare hop]
    refine Text.trimEnd_eq_self_iff.mpr fun c hc => ?_
    obtain rfl := Option.some.inj hc
    exact (bare_of_mem_letters (mem_letters_of_bareActions hop)).1
  | @text op what make gap t hop hgap hne _ =>
    have htrim' : trimEnd ((op :: gap) ++ t.toList) = (op :: gap) ++ t.toList := htrim
    have ht : trimEnd t.toList = t.toList := Text.trimEnd_eq_self_of_append htrim'
    rw [writtenAction_text hop]
    exact Text.trimEnd_append_eq_self hne ht [op, ' ']
  | @replace d gap gap' source replacement p all hgap hd hsource hreplacement hp hgap' =>
    rw [delimiterOf_replace hgap hd, Option.getD_some, writtenAction]
    refine Text.trimEnd_eq_self_iff.mpr fun c hc => ?_
    rw [List.getLast?_cons, List.getLast?_append, Scanner.getLast?_enclosed] at hc
    cases all
    · obtain rfl := Option.some.inj hc
      exact Scanner.isBlank_of_isDelimiter hd
    · obtain rfl := Option.some.inj hc
      exact (by decide : isBlank 'g' = false)

/-! ## Lines -/

/-- The directive's name and what is behind it. -/
theorem ofLine_sed (hne : body ≠ []) (hbody : trimEnd body = body) :
    Scanner.ofLine ("sed " ++ String.ofList body) = some ("sed", Scanner.ofRest body) := by
  have htrim : Text.trim ("sed " ++ String.ofList body).toList =
      's' :: 'e' :: 'd' :: ' ' :: body := by
    have htext : ("sed " ++ String.ofList body).toList = ['s', 'e', 'd', ' '] ++ body := by simp
    rw [Text.trim, htext]
    exact Text.trimEnd_append_eq_self hne hbody ['s', 'e', 'd', ' ']
  have hword : ∀ c ∈ ['s', 'e', 'd'], (!isBlank c) = true := List.all_eq_true.mp (by decide)
  have hblank : isBlank ' ' = true := by decide
  have hsplit : Text.splitWord (['s', 'e', 'd'] ++ ' ' :: body) =
      (['s', 'e', 'd'], trimStart body) := by
    rw [Text.splitWord, List.takeWhile_append_of_pos hword, List.dropWhile_append_of_pos hword]
    simp [hblank, trimStart]
  rw [Scanner.ofLine, htrim]
  simp only [List.head?_cons, Option.some.injEq, Char.reduceEq, if_false]
  rw [Scanner.word?, if_neg (by simp [Scanner.isDone])]
  exact congrArg (fun w => some (String.ofList w.1, Scanner.mk w.2)) hsplit

/-- What is left of a line behind its first word is trimmed. -/
theorem trimEnd_of_ofLine {word : String} (h : Scanner.ofLine line = some (word, s)) :
    trimEnd s.rest = s.rest := by
  simp only [Scanner.ofLine] at h
  split at h
  · cases h
  · rw [Scanner.word?] at h
    split at h
    · cases h
    · obtain ⟨-, rfl⟩ := Prod.mk.inj (Option.some.inj h)
      obtain ⟨gap, -, hbehind⟩ := Text.exists_append_trimStart
        ((Text.trim line.toList).dropWhile (!isBlank ·))
      have htrim : trimEnd (Text.trim line.toList) = Text.trim line.toList :=
        Text.trimEnd_trimEnd _
      rw [← List.takeWhile_append_dropWhile (p := (!isBlank ·)) (l := Text.trim line.toList),
        hbehind, ← List.append_assoc] at htrim
      exact Text.trimEnd_eq_self_of_append htrim

/-! ## Refusals -/

/-- **Texts that no stream edit is read from**, because something is missing
or left over, and the problem that says so. -/
inductive Refused : List Char → Problem → Prop
  | missingText {addr gap : List Char} {a : Option Address} {op : Char} {what : String}
      {make : String → SedAction} : AddressText addr a → (op, what, make) ∈ textActions →
      Blanks gap → Refused (addr ++ op :: gap) (.missingText what)
  | extraWords {addr more : List Char} {a : Option Address} {op : Char} {act : SedAction} :
      AddressText addr a → (op, act) ∈ bareActions → trimStart more ≠ [] →
      Refused (addr ++ op :: more) .extraArguments
  | unknownFlags {addr gap flags : List Char} {a : Option Address} {d : Char}
      {source replacement : String} : AddressText addr a → Blanks gap → isDelimiter d = true →
      WellEscaped d source.toList → WellEscaped d replacement.toList → trimStart flags ≠ [] →
      trimStart flags ≠ ['g'] →
      Refused (addr ++ 's' :: (gap ++ (enclosed d [source.toList, replacement.toList] ++ flags)))
        (.unknownFlags (String.ofList (trimStart flags)))
  | backwards {ds es rest : List Char} {n m : Nat} : Numeral ds n → Numeral es m → m < n →
      (∀ c, rest.head? = some c → Unicode.digit.contains c = false) →
      Refused (ds ++ ',' :: (es ++ rest)) (.backwardsRange (String.ofList (ds ++ ',' :: es)))
  | firstTooLarge {ds rest : List Char} : (∀ c ∈ ds, c.isDigit = true) →
      Text.maxNat < Nat.ofDigitChars 10 ds 0 →
      (∀ c, rest.head? = some c → Unicode.digit.contains c = false) →
      Refused (ds ++ rest) (.badLineNumber (String.ofList ds) .tooLarge)
  | secondTooLarge {ds es rest : List Char} {n : Nat} : Numeral ds n →
      (∀ c ∈ es, c.isDigit = true) → Text.maxNat < Nat.ofDigitChars 10 es 0 →
      (∀ c, rest.head? = some c → Unicode.digit.contains c = false) →
      Refused (ds ++ ',' :: (es ++ rest)) (.badLineNumber (String.ofList es) .tooLarge)

/-- A text without an address fails as that fails. -/
theorem setup_of_address_error (h : address s = .error problem) : setup s = .error problem := by
  rw [setup, h]
  rfl

/-- A text with an address fails as the action behind it fails. -/
theorem setup_of_action_error (haddr : AddressText addr a) (hop : op ∈ letters)
    (h : action ⟨op :: rest⟩ = .error problem) :
    setup ⟨addr ++ op :: rest⟩ = .error problem := by
  rw [setup, haddr.address hop]
  simp only [h, bind, Except.bind]

/-- An action fails as its arguments are read. -/
theorem action_of_actionOf_error (h : actionOf op (Scanner.ofRest rest) = .error problem) :
    action ⟨op :: rest⟩ = .error problem := by
  rw [action_cons, h]
  rfl

theorem lineNumber_tooLarge {ds : List Char} (hdigits : ∀ c ∈ ds, c.isDigit = true)
    (hlt : Text.maxNat < Nat.ofDigitChars 10 ds 0) :
    ds ≠ [] ∧ lineNumber ds = .error (.badLineNumber (String.ofList ds) .tooLarge) := by
  have hne : ds ≠ [] := by
    rintro rfl
    simp [Nat.ofDigitChars] at hlt
  refine ⟨hne, ?_⟩
  rw [lineNumber, Text.readNat_of_digits hne hdigits, if_neg (by omega)]
  rfl

/-- **What is refused fails with the problem that is named.** -/
theorem Refused.setup (h : Refused s.rest problem) : Sed.setup s = .error problem := by
  obtain ⟨cs⟩ := s
  simp only at h
  cases h with
  | @missingText addr gap a op what make haddr hop hgap =>
    refine setup_of_action_error haddr (mem_letters_of_textActions hop)
      (action_of_actionOf_error ?_)
    rw [actionOf_text hop, ← List.append_nil gap, ofRest_append hgap rfl]
    rfl
  | @extraWords addr more a op act haddr hop hmore =>
    refine setup_of_action_error haddr (mem_letters_of_bareActions hop) ?_
    rw [action_cons, actionOf_bare hop]
    change (if (Scanner.ofRest more).isDone then _ else _) = _
    rw [if_neg (by simpa [Scanner.isDone, Scanner.ofRest] using hmore)]
  | @unknownFlags addr gap flags a d source replacement haddr hgap hd hsource hreplacement hne hflag =>
    refine setup_of_action_error haddr (by decide) (action_of_actionOf_error ?_)
    have hliterals : (Scanner.ofRest (gap ++ (enclosed d [source.toList, replacement.toList] ++
        flags))).literals? 2 = some ([source, replacement], Scanner.ofRest flags) := by
      refine literals?_eq_some_iff.mpr ⟨by decide, rfl, d, flags, hd, by simpa using
        ⟨hsource, hreplacement⟩, ?_, rfl⟩
      have htrim : trimStart (enclosed d [source.toList, replacement.toList] ++ flags) =
          enclosed d [source.toList, replacement.toList] ++ flags :=
        Text.trimStart_cons_of_bare (Scanner.isBlank_of_isDelimiter hd) _
      rw [ofRest_append hgap htrim]
      rfl
    have hall : (Scanner.ofRest flags).all? = some (String.ofList (trimStart flags)) :=
      all?_eq_some_iff.mpr ⟨by rwa [String.toList_ofList], by rw [String.toList_ofList]; rfl⟩
    have hg : String.ofList (trimStart flags) ≠ "g" := by
      intro heq
      exact hflag (by rw [← String.toList_ofList (l := trimStart flags), heq]; rfl)
    rw [actionOf_substitution, substitution, hliterals]
    simp only [hall]
  | @backwards ds es rest n m hn hm hlt hrest =>
    refine setup_of_address_error ?_
    rw [address_of_range hn.digits hn.ne_nil hm.digits hm.ne_nil hrest, lineNumber_of_numeral hn,
      lineNumber_of_numeral hm]
    exact if_pos hlt
  | @firstTooLarge ds rest hdigits hlt hrest =>
    obtain ⟨hne, hnumber⟩ := lineNumber_tooLarge hdigits hlt
    refine setup_of_address_error ?_
    have hempty : ds.isEmpty = false := by simpa using hne
    simp only [address, digitsOf_append hdigits hrest, hempty, Bool.false_eq_true, if_false, hnumber]
    repeat' split
    all_goals rfl
  | @secondTooLarge ds es rest n hn hdigits hlt hrest =>
    obtain ⟨hne, hnumber⟩ := lineNumber_tooLarge hdigits hlt
    refine setup_of_address_error ?_
    rw [address_of_range hn.digits hn.ne_nil hdigits hne hrest, lineNumber_of_numeral hn, hnumber]
    rfl

/-! ## Round trips -/

/-- A range does not run backwards. -/
theorem AddressText.le_of_lines {n m : Nat} (h : AddressText addr a)
    (hlines : a = some (.lines n m)) : n ≤ m := by
  subst hlines
  cases h with
  | line => exact Nat.le_refl _
  | lines _ _ hle => exact hle

/-- The delimiter is that of the action's text. -/
theorem delimiter?_eq (haddr : AddressText addr a) (htxt : ActionText txt act)
    (hrest : s.rest = addr ++ txt) : delimiter? s = delimiterOf txt := by
  obtain ⟨op, hop, rest, rfl⟩ := htxt.exists_letter
  obtain rfl : s = ⟨addr ++ op :: rest⟩ := congrArg Scanner.mk hrest
  rw [delimiter?, haddr.address hop]

/-- **A text of the grammar is read again from how it is written.** -/
theorem setup_written (haddr : AddressText addr a) (htxt : ActionText txt act)
    (htrim : trimEnd txt = txt) (hgap : Blanks gap) :
    ∃ s', Scanner.ofLine (written gap ((delimiterOf txt).getD '/') a act) = some ("sed", s') ∧
      setup s' = .ok (a, act) := by
  have htxt' := htxt.written
  have htrim' := trimEnd_writtenAction htxt htrim
  obtain ⟨op, hop, rest, hwritten⟩ := htxt'.exists_letter
  obtain ⟨addr', haddr', hstart⟩ := haddr.written hgap hop rest
  have hbody : trimEnd (writtenAddress a ++ (gap ++ op :: rest)) =
      writtenAddress a ++ (gap ++ op :: rest) := by
    rw [← List.append_assoc]
    exact Text.trimEnd_append_eq_self (List.cons_ne_nil op rest) (hwritten ▸ htrim') _
  refine ⟨⟨addr' ++ op :: rest⟩, ?_,
    setup_eq_ok_iff.mpr ⟨addr', op :: rest, haddr', hwritten ▸ htxt', rfl⟩⟩
  rw [written, hwritten, ofLine_sed (by simp) hbody, Scanner.ofRest, hstart]

/-- **Stream edits round-trip.** What is read from a line is written in a way
that it is read from again, with the delimiter of that line and with blanks
of one's choice, and a range that is read does not run backwards. Nothing is
read but an address and an action with its arguments that take all there is.
What is missing, left over, reversed or too large is refused by name. -/
theorem setup_round_trip :
    (∀ (line : String) (s : Scanner) (a : Option Address) (act : SedAction),
        Scanner.ofLine line = some ("sed", s) → setup s = .ok (a, act) →
        (∀ n m, a = some (.lines n m) → n ≤ m) ∧
          ∀ gap, Blanks gap →
            ∃ s', Scanner.ofLine (written gap ((delimiter? s).getD '/') a act) = some ("sed", s') ∧
              setup s' = .ok (a, act)) ∧
      (∀ (s : Scanner) (a : Option Address) (act : SedAction), setup s = .ok (a, act) ↔
        ∃ addr txt, AddressText addr a ∧ ActionText txt act ∧ s.rest = addr ++ txt) ∧
      ∀ (s : Scanner) (problem : Problem), Refused s.rest problem → setup s = .error problem := by
  refine ⟨?_, fun s a act => setup_eq_ok_iff, fun s problem => Refused.setup⟩
  intro line s a act hline hsetup
  obtain ⟨addr, txt, haddr, htxt, hrest⟩ := setup_eq_ok_iff.mp hsetup
  refine ⟨fun n m => haddr.le_of_lines, fun gap hgap => ?_⟩
  have htrim : trimEnd txt = txt :=
    Text.trimEnd_eq_self_of_append (hrest ▸ trimEnd_of_ofLine hline)
  rw [delimiter?_eq haddr htxt hrest]
  exact setup_written haddr htxt htrim hgap

/-- Marks that delimit, with blanks before the action and before its flag, a
slash that is no delimiter, and a delimiter in the replacement; and a word
too many. -/
theorem setup_round_trip_of_marks :
    let line := "sed 2,4 s !a/b!c\\! ! g"
    let rest := "2,4 s !a/b!c\\! ! g".toList
    let replace (p : Pattern) : SedAction := .replace p "c! " true
    ∃ s s' p, s.rest = rest ∧ Sed.pattern "a/b" = .ok p ∧ Scanner.ofLine line = some ("sed", s) ∧
      setup s = .ok (some (.lines 2 4), replace p) ∧
      Scanner.ofLine "sed 2,4s!a/b!c\\! !g" = some ("sed", s') ∧
      setup s' = .ok (some (.lines 2 4), replace p) ∧
      setup ⟨"3d x".toList⟩ = .error .extraArguments := by
  intro line rest replace
  have hfound : (Pattern.ofSource "a/b").toOption.map (·.source) = some "a/b" := by
    decide +kernel
  obtain ⟨p, hp, -⟩ := Pattern.exists_ofSource hfound
  have hpattern : Sed.pattern "a/b" = .ok p := by
    rw [Sed.pattern, hp]
    rfl
  have hmark : isDelimiter '!' = true := by
    rw [isDelimiter, Unicode.alphanumeric_contains_of_lt (by decide)]
    decide
  have htwo : Numeral ['2'] 2 := ⟨by decide, by simp, by decide, by decide⟩
  have hthree : Numeral ['3'] 3 := ⟨by decide, by simp, by decide, by decide⟩
  have hfour : Numeral ['4'] 4 := ⟨by decide, by simp, by decide, by decide⟩
  have haddr : AddressText "2,4 ".toList (some (.lines 2 4)) :=
    AddressText.lines htwo hfour (by decide) blanks_space
  have hsource : WellEscaped '!' "a/b".toList :=
    .plain (by decide) (.plain (by decide) (.plain (by decide) .nil))
  have hreplacement : WellEscaped '!' "c! ".toList :=
    .plain (by decide) (.plain (by decide) (.plain (by decide) .nil))
  have htxt : ActionText ('s' :: ([' '] ++ (enclosed '!' ["a/b".toList, "c! ".toList] ++
      ([' '] ++ if true then ['g'] else [])))) (replace p) :=
    .replace blanks_space hmark hsource hreplacement hpattern blanks_space
  have hdelete : ('d', SedAction.delete) ∈ bareActions := by simp [bareActions]
  have hwords : Refused (['3'] ++ [] ++ 'd' :: [' ', 'x']) .extraArguments :=
    .extraWords (.line hthree .nil) hdelete (by decide)
  have hrest : rest = "2,4 ".toList ++ ('s' :: ([' '] ++ (enclosed '!' ["a/b".toList,
      "c! ".toList] ++ ([' '] ++ if true then ['g'] else [])))) := by decide
  have hline : Scanner.ofLine line = some ("sed", ⟨rest⟩) := by decide
  have hsetup := (setup_round_trip.2.1 ⟨rest⟩ _ _).mpr ⟨_, _, haddr, htxt, hrest⟩
  obtain ⟨s', hline', hsetup'⟩ := (setup_round_trip.1 _ _ _ _ hline hsetup).2 [] .nil
  have hwritten : written [] ((delimiter? ⟨rest⟩).getD '/') (some (.lines 2 4)) (replace p) =
      "sed 2,4s!a/b!c\\! !g" := by
    have hdelimiter : delimiter? ⟨rest⟩ = some '!' :=
      (delimiter?_eq (s := ⟨rest⟩) haddr htxt hrest).trans (by decide)
    rw [hdelimiter, written, writtenAction, source_of_pattern hpattern]
    decide
  exact ⟨⟨rest⟩, s', p, rfl, hpattern, hline, hsetup, hwritten ▸ hline', hsetup',
    setup_round_trip.2.2 _ _ hwords⟩

end Sed

end LogSift
