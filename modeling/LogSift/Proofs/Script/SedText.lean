import LogSift.Script.Sed
import LogSift.Proofs.Script.Literals
import LogSift.Proofs.Text.Decimal
import LogSift.Proofs.Text.Lines
/-!
# Stream edits as texts

`AddressText` and `ActionText` say which texts are an address and an
action, and of what: that is the grammar of stream edits. A stream edit is
read from exactly the texts of the grammar, as what they say
(`setup_eq_ok_iff`), so no text says two things and nothing of a text is
passed over.
-/


namespace LogSift

namespace Sed

open Text (Numeral trimStart)
open Scanner (WellEscaped enclosed isDelimiter literals?_eq_some_iff literalText?_eq_some_iff)

variable {s left : Scanner} {a : Option Address} {act : SedAction} {op : Char}
  {cs ds addr txt rest gap : List Char}

/-- There is nothing but blanks. -/
def Blanks (gap : List Char) : Prop := ∀ c ∈ gap, isBlank c = true

/-- The actions that take no arguments, by their letters. -/
def bareActions : List (Char × SedAction) :=
  [('-', .filter .remove), ('+', .filter .add), ('~', .filter .highlight), ('d', .delete)]

/-- The actions that take a text, by their letters, with what they call it. -/
def textActions : List (Char × String × (String → SedAction)) :=
  [('c', "replacement text", .change), ('i', "text to insert", .insert),
    ('a', "text to append", .append)]

/-- **An address as a text says it**, with the blanks behind it. -/
inductive AddressText : List Char → Option Address → Prop
  | none : AddressText [] none
  | line {ds gap : List Char} {n : Nat} : Numeral ds n → Blanks gap →
      AddressText (ds ++ gap) (some (.lines n n))
  | lines {ds es gap : List Char} {n m : Nat} : Numeral ds n → Numeral es m → n ≤ m →
      Blanks gap → AddressText (ds ++ ',' :: (es ++ gap)) (some (.lines n m))
  | matching {source : String} {gap : List Char} {p : Pattern} :
      WellEscaped '/' source.toList → Sed.pattern source = .ok p → Blanks gap →
      AddressText (enclosed '/' [source.toList] ++ gap) (some (.matching p))

/-- **An action as a text says it**, with the blanks behind it. -/
inductive ActionText : List Char → SedAction → Prop
  | bare {op : Char} {act : SedAction} {gap : List Char} : (op, act) ∈ bareActions →
      Blanks gap → ActionText (op :: gap) act
  | text {op : Char} {what : String} {make : String → SedAction} {gap : List Char} {t : String} :
      (op, what, make) ∈ textActions → Blanks gap → t.toList ≠ [] → trimStart t.toList = t.toList →
      ActionText (op :: (gap ++ t.toList)) (make t)
  | replace {d : Char} {gap gap' : List Char} {source replacement : String} {p : Pattern}
      {all : Bool} : Blanks gap → isDelimiter d = true → WellEscaped d source.toList →
      WellEscaped d replacement.toList → Sed.pattern source = .ok p → Blanks gap' →
      ActionText ('s' :: (gap ++ (enclosed d [source.toList, replacement.toList] ++
        (gap' ++ if all then ['g'] else [])))) (.replace p replacement all)

/-! ## Scanning -/

theorem Blanks.nil : Blanks [] := List.forall_mem_nil _

/-- What is left behind blanks. -/
theorem ofRest_append (h : Blanks gap) (hcs : trimStart cs = cs) :
    Scanner.ofRest (gap ++ cs) = ⟨cs⟩ := by
  rw [Scanner.ofRest, Text.trimStart_append h, hcs]

/-- Blanks before what is left. -/
theorem exists_blanks_append (cs : List Char) :
    ∃ gap, Blanks gap ∧ cs = gap ++ (Scanner.ofRest cs).rest :=
  Text.exists_append_trimStart cs

theorem all?_eq_some_iff {t : String} : s.all? = some t ↔ t.toList ≠ [] ∧ s.rest = t.toList := by
  rw [Scanner.all?, Scanner.isDone]
  constructor
  · intro h
    split at h
    · cases h
    · rename_i hrest
      obtain rfl := Option.some.inj h
      rw [String.toList_ofList]
      exact ⟨by simpa using hrest, rfl⟩
  · rintro ⟨hne, hrest⟩
    rw [hrest, if_neg (by simpa using hne), String.ofList_toList]

theorem all?_eq_none_iff : s.all? = none ↔ s = ⟨[]⟩ := by
  obtain ⟨rest⟩ := s
  rw [Scanner.all?, Scanner.isDone]
  cases rest <;> simp

/-- The letters of the actions. -/
def letters : List Char := ['-', '+', '~', 'd', 's', 'c', 'i', 'a']

/-- What starts with the letter of an action starts with no address. -/
theorem bare_of_mem_letters (h : op ∈ letters) :
    isBlank op = false ∧ Unicode.digit.contains op = false ∧ op ≠ ',' ∧ op ≠ '/' := by
  have hascii : ∀ c ∈ letters, (decide (c.toNat < 128) && !isBlank c && !c.isDigit && c != ',' &&
      c != '/') = true := List.all_eq_true.mp (by decide)
  obtain ⟨⟨⟨⟨hlt, hblank⟩, hdigit⟩, hcomma⟩, hslash⟩ :
      (((op.toNat < 128 ∧ isBlank op = false) ∧ op.isDigit = false) ∧ op ≠ ',') ∧ op ≠ '/' := by
    simpa using hascii op h
  exact ⟨hblank, (Unicode.digit_contains_of_lt hlt).trans hdigit, hcomma, hslash⟩

theorem mem_letters_of_bareActions (h : (op, act) ∈ bareActions) : op ∈ letters := by
  have hmem : ∀ e ∈ bareActions, e.1 ∈ letters := by simp [bareActions, letters]
  exact hmem _ h

theorem mem_letters_of_textActions {what : String} {make : String → SedAction}
    (h : (op, what, make) ∈ textActions) : op ∈ letters := by
  have hmem : ∀ e ∈ textActions, e.1 ∈ letters := by simp [textActions, letters]
  exact hmem _ h

theorem ActionText.exists_letter (h : ActionText txt act) :
    ∃ op ∈ letters, ∃ rest, txt = op :: rest := by
  cases h with
  | bare hop _ => exact ⟨_, mem_letters_of_bareActions hop, _, rfl⟩
  | text hop _ _ _ => exact ⟨_, mem_letters_of_textActions hop, _, rfl⟩
  | replace => exact ⟨'s', by decide, _, rfl⟩

/-! ## Addresses -/

/-- Digits are read up to what is none. -/
theorem digitsOf_append (hds : ∀ c ∈ ds, c.isDigit = true)
    (hrest : ∀ c, rest.head? = some c → Unicode.digit.contains c = false) :
    digitsOf (ds ++ rest) = (ds, rest) := by
  have hcontains : ∀ c ∈ ds, Unicode.digit.contains c = true := by
    intro c hc
    have hdigit := hds c hc
    rw [Unicode.digit_contains_of_lt (Unicode.toNat_lt_of_isDigit hdigit), hdigit]
  rw [digitsOf, List.takeWhile_append_of_pos hcontains, List.dropWhile_append_of_pos hcontains]
  rcases rest with _ | ⟨c, rest⟩
  · simp
  · have := hrest c rfl
    simp [this]

/-- No digits are read from what does not start with one. -/
theorem digitsOf_of_head? (h : ∀ c, cs.head? = some c → Unicode.digit.contains c = false) :
    digitsOf cs = ([], cs) := by
  simpa using digitsOf_append (List.forall_mem_nil _) h

/-- What is read as digits is made of them, and no sign is. -/
theorem digitsOf_eq (h : digitsOf cs = (ds, rest)) :
    cs = ds ++ rest ∧ ds.head? ≠ some '+' := by
  obtain ⟨rfl, rfl⟩ := Prod.mk.inj h
  refine ⟨List.takeWhile_append_dropWhile.symm, fun hplus => ?_⟩
  have hcontains := List.all_eq_true.mp List.all_takeWhile '+' (List.mem_of_mem_head? hplus)
  rw [Unicode.digit_contains_of_lt (by decide)] at hcontains
  exact absurd hcontains (by decide)

theorem lineNumber_eq_ok_iff {n : Nat} (hplus : ds.head? ≠ some '+') :
    lineNumber ds = .ok n ↔ Numeral ds n := by
  rw [← Text.readNat_eq_ok_iff hplus, lineNumber]
  cases Text.readNat ds with
  | error fault => exact iff_of_false (fun h => nomatch h) (fun h => nomatch h)
  | ok m => exact ⟨fun h => congrArg _ (Except.ok.inj h), fun h => congrArg _ (Except.ok.inj h)⟩

theorem lineNumber_of_numeral {n : Nat} (h : Numeral ds n) : lineNumber ds = .ok n :=
  (lineNumber_eq_ok_iff (Text.head?_ne_plus h.digits)).mpr h

/-- What stands behind an address: blanks and the letter of an action. It
starts neither with a digit nor with a comma. -/
theorem head?_blanks_letter (hgap : Blanks gap) (hop : op ∈ letters) (rest : List Char) :
    ∀ c, (gap ++ op :: rest).head? = some c → Unicode.digit.contains c = false ∧ c ≠ ',' := by
  intro c hc
  obtain ⟨-, hdigit, hcomma, -⟩ := bare_of_mem_letters hop
  rcases gap with _ | ⟨b, gap⟩
  · obtain rfl := Option.some.inj hc
    exact ⟨hdigit, hcomma⟩
  · obtain rfl := Option.some.inj hc
    have hblank := hgap b List.mem_cons_self
    refine ⟨Unicode.digit_contains_of_isBlank hblank, ?_⟩
    rintro rfl
    exact absurd hblank (by decide)

/-- The comma of a range is no digit. -/
theorem digit_contains_comma : Unicode.digit.contains ',' = false :=
  (Unicode.digit_contains_of_lt (by decide)).trans (by decide)

/-- **Two numbers with a comma between them** are read one after the other. -/
theorem address_of_range {es : List Char} (hds : ∀ c ∈ ds, c.isDigit = true) (hne : ds ≠ [])
    (hes : ∀ c ∈ es, c.isDigit = true) (hne' : es ≠ [])
    (hrest : ∀ c, rest.head? = some c → Unicode.digit.contains c = false) :
    Sed.address ⟨ds ++ ',' :: (es ++ rest)⟩ = (do
      let n ← lineNumber ds
      let m ← lineNumber es
      if m < n then .error (.backwardsRange (String.ofList (ds ++ ',' :: es)))
      else return (some (Address.lines n m), Scanner.ofRest rest)) := by
  have hfirst : digitsOf (ds ++ ',' :: (es ++ rest)) = (ds, ',' :: (es ++ rest)) :=
    digitsOf_append hds (by simpa using digit_contains_comma)
  have hlast : digitsOf (es ++ rest) = (es, rest) := digitsOf_append hes hrest
  have hds : ds.isEmpty = false := by simpa using hne
  have hes : es.isEmpty = false := by simpa using hne'
  simp only [Sed.address, hfirst, hlast, hds, hes, Bool.false_eq_true, if_false]

/-- Without digits, it is a slash that starts an address. -/
theorem address_of_head? (h : ∀ c, s.rest.head? = some c → Unicode.digit.contains c = false) :
    Sed.address s =
      if s.peek? = some '/' then
        match s.literalText? with
        | none => .error .unterminatedAddress
        | some (source, s) => do return (some (Address.matching (← Sed.pattern source)), s)
      else .ok (none, s) := by
  rw [Sed.address, digitsOf_of_head? h]
  exact if_pos rfl

/-- **The text of an address is read as what it says**, before the letter of
an action. -/
theorem AddressText.address (h : AddressText addr a) (hop : op ∈ letters) :
    Sed.address ⟨addr ++ op :: rest⟩ = .ok (a, ⟨op :: rest⟩) := by
  obtain ⟨hblank, hdigit, -, hslash⟩ := bare_of_mem_letters hop
  have htrim : trimStart (op :: rest) = op :: rest := Text.trimStart_cons_of_bare hblank rest
  have hstroke : Unicode.digit.contains '/' = false :=
    (Unicode.digit_contains_of_lt (by decide)).trans (by decide)
  cases h with
  | none =>
    have hpeek : (Scanner.mk (op :: rest)).peek? ≠ some '/' := by simpa [Scanner.peek?] using hslash
    rw [List.nil_append, address_of_head? (by simpa using hdigit), if_neg hpeek]
  | @line ds gap n hn hgap =>
    have hbehind := head?_blanks_letter hgap hop rest
    have hdigits : digitsOf (ds ++ gap ++ op :: rest) = (ds, gap ++ op :: rest) := by
      rw [List.append_assoc]
      exact digitsOf_append hn.digits fun c hc => (hbehind c hc).1
    have hne : ds.isEmpty = false := by simpa using hn.ne_nil
    simp only [Sed.address, hdigits, hne, Bool.false_eq_true, if_false]
    split
    · rename_i second heq
      exact absurd rfl (hbehind ',' (by rw [heq]; rfl)).2
    · rw [lineNumber_of_numeral hn, ofRest_append hgap htrim]
      rfl
  | @lines ds es gap n m hn hm hle hgap =>
    have hbehind := head?_blanks_letter hgap hop rest
    have htext : ds ++ ',' :: (es ++ gap) ++ op :: rest =
        ds ++ ',' :: (es ++ (gap ++ op :: rest)) := by simp
    rw [htext,
      address_of_range hn.digits hn.ne_nil hm.digits hm.ne_nil fun c hc => (hbehind c hc).1,
      lineNumber_of_numeral hn, lineNumber_of_numeral hm, ofRest_append hgap htrim]
    change (if m < n then _ else _) = _
    rw [if_neg (by omega)]
    rfl
  | @matching source gap p hwell hp hgap =>
    have hpeek : (Scanner.mk (enclosed '/' [source.toList] ++ gap ++ op :: rest)).peek? =
        some '/' := rfl
    have hliteral : (Scanner.mk (enclosed '/' [source.toList] ++ gap ++ op :: rest)).literalText? =
        some (source, ⟨op :: rest⟩) := by
      refine literalText?_eq_some_iff.mpr (literals?_eq_some_iff.mpr ⟨by decide, rfl, '/',
        gap ++ op :: rest, Scanner.isDelimiter_slash, by simpa using hwell, ?_, ?_⟩)
      · simp
      · exact (ofRest_append hgap htrim).symm
    rw [address_of_head? (by simpa [enclosed] using hstroke), if_pos hpeek, hliteral]
    simp only [hp]
    rfl

/-- The address of a single line, as far as it is one. -/
theorem exists_addressText_single {n : Nat} {behind : List Char} (hn : Numeral ds n) :
    ∃ addr, AddressText addr (some (.lines n n)) ∧
      ds ++ behind = addr ++ (Scanner.ofRest behind).rest := by
  obtain ⟨gap, hgap, hbehind⟩ := exists_blanks_append behind
  refine ⟨ds ++ gap, .line hn hgap, ?_⟩
  conv => lhs; rw [hbehind, ← List.append_assoc]

/-- The address of a range of lines. -/
theorem exists_addressText_range {n m : Nat} {behind : List Char} (hn : Numeral ds n)
    (hm : Numeral es m) (hle : n ≤ m) :
    ∃ addr, AddressText addr (some (.lines n m)) ∧
      ds ++ ',' :: (es ++ behind) = addr ++ (Scanner.ofRest behind).rest := by
  obtain ⟨gap, hgap, hbehind⟩ := exists_blanks_append behind
  refine ⟨ds ++ ',' :: (es ++ gap), .lines hn hm hle hgap, ?_⟩
  conv => lhs; rw [hbehind]
  simp

/-- The address by a pattern. -/
theorem exists_addressText_matching {source : String} {p : Pattern} (hpeek : s.peek? = some '/')
    (hliteral : s.literalText? = some (source, left)) (hp : Sed.pattern source = .ok p) :
    ∃ addr, AddressText addr (some (.matching p)) ∧ s.rest = addr ++ left.rest := by
  obtain ⟨-, -, d, tail, -, hwell, hliterals, rfl⟩ :=
    literals?_eq_some_iff.mp (literalText?_eq_some_iff.mp hliteral)
  obtain rfl : d = '/' := by
    rw [Scanner.peek?, hliterals] at hpeek
    exact Option.some.inj hpeek
  obtain ⟨gap, hgap, htail⟩ := exists_blanks_append tail
  refine ⟨enclosed '/' [source.toList] ++ gap, .matching (hwell _ (by simp)) hp hgap, ?_⟩
  rw [hliterals, List.append_assoc, ← htail]
  rfl

/-- **What is read as an address is the text of it.** -/
theorem exists_addressText (h : Sed.address s = .ok (a, left)) :
    ∃ addr, AddressText addr a ∧ s.rest = addr ++ left.rest := by
  rcases hdigits : digitsOf s.rest with ⟨ds, behind⟩
  obtain ⟨hrest, hplus⟩ := digitsOf_eq hdigits
  have hsingle : ∀ n, lineNumber ds = .ok n →
      (.ok (some (Address.lines n n), Scanner.ofRest behind) :
        Except Problem (Option Address × Scanner)) = .ok (a, left) →
      ∃ addr, AddressText addr a ∧ s.rest = addr ++ left.rest := by
    intro n hn heq
    obtain ⟨rfl, rfl⟩ := Prod.mk.inj (Except.ok.inj heq)
    rw [hrest]
    exact exists_addressText_single ((lineNumber_eq_ok_iff hplus).mp hn)
  simp only [Sed.address, hdigits] at h
  split at h
  · split at h
    · rename_i hpeek
      split at h
      · cases h
      · rename_i source left' hliteral
        rcases hp : Sed.pattern source with problem | p
        · rw [hp] at h
          cases h
        · rw [hp] at h
          obtain ⟨rfl, rfl⟩ := Prod.mk.inj (Except.ok.inj h)
          exact exists_addressText_matching hpeek hliteral hp
    · obtain ⟨rfl, rfl⟩ := Prod.mk.inj (Except.ok.inj h)
      exact ⟨[], .none, rfl⟩
  · rcases hn : lineNumber ds with problem | n
    · -- no line number in either case
      exfalso
      rw [hn] at h
      repeat' split at h
      all_goals cases h
    · simp only [hn] at h
      split at h
      · rename_i second
        rcases hsecond : digitsOf second with ⟨es, behind⟩
        obtain ⟨rfl, hplus'⟩ := digitsOf_eq hsecond
        simp only [hsecond] at h
        split at h
        · exact hsingle n hn h
        · rcases hm : lineNumber es with problem | m
          · rw [hm] at h
            cases h
          · rw [hm] at h
            change (if m < n then _ else _) = _ at h
            split at h
            · cases h
            · rename_i hle
              obtain ⟨rfl, rfl⟩ := Prod.mk.inj (Except.ok.inj h)
              rw [hrest]
              exact exists_addressText_range ((lineNumber_eq_ok_iff hplus).mp hn)
                ((lineNumber_eq_ok_iff hplus').mp hm) (by omega)
      · exact hsingle n hn h

/-! ## Actions -/

theorem actionOf_bare (h : (op, act) ∈ bareActions) (s : Scanner) :
    actionOf op s = .ok (act, s) := by
  simp only [bareActions, List.mem_cons, Prod.mk.injEq, List.not_mem_nil, or_false] at h
  rcases h with ⟨rfl, rfl⟩ | ⟨rfl, rfl⟩ | ⟨rfl, rfl⟩ | ⟨rfl, rfl⟩ <;> rfl

/-- An action with a text takes all that is left. -/
theorem actionOf_text {what : String} {make : String → SedAction}
    (h : (op, what, make) ∈ textActions) (s : Scanner) :
    actionOf op s = s.all?.elim (.error (.missingText what)) fun t => .ok (make t, ⟨[]⟩) := by
  have hread : ∀ make : String → SedAction,
      ((Sed.text what s).bind fun read => .ok (make read.1, read.2)) =
        s.all?.elim (.error (.missingText what)) fun t => .ok (make t, (⟨[]⟩ : Scanner)) := by
    intro make
    rw [Sed.text]
    cases s.all? <;> rfl
  simp only [textActions, List.mem_cons, Prod.mk.injEq, List.not_mem_nil, or_false] at h
  rcases h with ⟨rfl, rfl, rfl⟩ | ⟨rfl, rfl, rfl⟩ | ⟨rfl, rfl, rfl⟩
  · exact hread .change
  · exact hread .insert
  · exact hread .append

theorem actionOf_substitution (s : Scanner) : actionOf 's' s = substitution s := rfl

/-- **A letter is that of an action**, of one of three kinds. -/
theorem letter_cases (h : actionOf op s = .ok (act, left)) :
    (op, act) ∈ bareActions ∨ op = 's' ∨ ∃ what make, (op, what, make) ∈ textActions := by
  unfold actionOf at h
  split at h
  iterate 4
    · obtain ⟨rfl, rfl⟩ := Prod.mk.inj (Except.ok.inj h)
      simp [bareActions]
  · exact .inr (.inl rfl)
  · exact .inr (.inr ⟨"replacement text", .change, by simp [textActions]⟩)
  · exact .inr (.inr ⟨"text to insert", .insert, by simp [textActions]⟩)
  · exact .inr (.inr ⟨"text to append", .append, by simp [textActions]⟩)
  · cases h

/-- **What a replacement takes**: two literals, and one letter at most. -/
theorem substitution_eq_ok_iff : substitution s = .ok (act, left) ↔
    ∃ source replacement p all,
      s.literals? 2 = some ([source, replacement], ⟨if all then ['g'] else []⟩) ∧
        Sed.pattern source = .ok p ∧ act = .replace p replacement all ∧ left = ⟨[]⟩ := by
  constructor
  · intro h
    rw [substitution] at h
    split at h
    · rename_i source replacement flags hliterals
      have hmake : ∀ all, (do return (SedAction.replace (← Sed.pattern source) replacement all,
          (⟨[]⟩ : Scanner)) : Except Problem (SedAction × Scanner)) = .ok (act, left) →
          ∃ p, Sed.pattern source = .ok p ∧ act = .replace p replacement all ∧ left = ⟨[]⟩ := by
        intro all hall
        rcases hp : Sed.pattern source with problem | p
        · rw [hp] at hall
          cases hall
        · rw [hp] at hall
          obtain ⟨rfl, rfl⟩ := Prod.mk.inj (Except.ok.inj hall)
          exact ⟨p, rfl, rfl, rfl⟩
      split at h
      · rename_i hdone
        obtain ⟨p, hp⟩ := hmake false h
        refine ⟨source, replacement, p, false, ?_, hp⟩
        rw [hliterals, all?_eq_none_iff.mp hdone]
        rfl
      · rename_i hflag
        obtain ⟨p, hp⟩ := hmake true h
        refine ⟨source, replacement, p, true, ?_, hp⟩
        obtain ⟨-, hrest⟩ := all?_eq_some_iff.mp hflag
        have hflags : flags = ⟨['g']⟩ := congrArg Scanner.mk hrest
        rw [hliterals, hflags]
        rfl
      · cases h
    · cases h
  · rintro ⟨source, replacement, p, all, hliterals, hp, rfl, rfl⟩
    rw [substitution, hliterals]
    cases all
    · have hdone : (Scanner.mk (if false = true then ['g'] else [])).all? = none :=
        all?_eq_none_iff.mpr rfl
      simp only [hdone, hp]
      rfl
    · simp only [hp]
      rfl

theorem action_cons (op : Char) (rest : List Char) :
    action ⟨op :: rest⟩ = (do
      let (act, left) ← actionOf op (Scanner.ofRest rest)
      if left.isDone then return act else .error .extraArguments) := rfl

/-- The letter of an action with nothing left behind its arguments. -/
theorem action_eq_ok_iff_actionOf :
    action ⟨op :: rest⟩ = .ok act ↔ actionOf op (Scanner.ofRest rest) = .ok (act, ⟨[]⟩) := by
  rw [action_cons]
  rcases actionOf op (Scanner.ofRest rest) with problem | ⟨act', ⟨left⟩⟩
  · constructor <;> (intro h; cases h)
  · change (if (Scanner.mk left).isDone then _ else _) = _ ↔ _
    cases left with
    | nil =>
      rw [if_pos (show (Scanner.mk []).isDone = true from rfl)]
      constructor
      · intro h
        obtain rfl := Except.ok.inj h
        rfl
      · intro h
        obtain ⟨rfl, -⟩ := Prod.mk.inj (Except.ok.inj h)
        rfl
    | cons c left =>
      rw [if_neg (by simp [Scanner.isDone])]
      constructor
      · intro h
        cases h
      · intro h
        obtain ⟨-, hleft⟩ := Prod.mk.inj (Except.ok.inj h)
        cases hleft

/-- The text of an action is read as what it says. -/
theorem ActionText.action (h : ActionText txt act) : Sed.action ⟨txt⟩ = .ok act := by
  cases h with
  | @bare op act gap hop hgap =>
    rw [action_eq_ok_iff_actionOf, actionOf_bare hop, ← List.append_nil gap, ofRest_append hgap rfl]
  | @text op what make gap t hop hgap hne htrim =>
    rw [action_eq_ok_iff_actionOf, ofRest_append hgap htrim, actionOf_text hop,
      all?_eq_some_iff.mpr ⟨hne, rfl⟩]
    rfl
  | @replace d gap gap' source replacement p all hgap hd hsource hreplacement hp hgap' =>
    have hflag : trimStart (if all then ['g'] else []) = if all then ['g'] else [] := by
      cases all <;> decide
    have hbare : isBlank d = false := Scanner.isBlank_of_isDelimiter hd
    have htrim : trimStart (enclosed d [source.toList, replacement.toList] ++
        (gap' ++ if all then ['g'] else [])) = enclosed d [source.toList, replacement.toList] ++
        (gap' ++ if all then ['g'] else []) := Text.trimStart_cons_of_bare hbare _
    rw [action_eq_ok_iff_actionOf, ofRest_append hgap htrim, actionOf_substitution]
    refine substitution_eq_ok_iff.mpr ⟨source, replacement, p, all, ?_, hp, rfl, rfl⟩
    refine literals?_eq_some_iff.mpr ⟨by decide, rfl, d, _, hd, ?_, rfl, ?_⟩
    · simpa using ⟨hsource, hreplacement⟩
    · rw [ofRest_append hgap' hflag]

/-- **What is read as an action is the text of it**, to the end. -/
theorem actionText_of_action (h : Sed.action ⟨txt⟩ = .ok act) : ActionText txt act := by
  rcases txt with _ | ⟨op, rest⟩
  · cases h
  · have hop := action_eq_ok_iff_actionOf.mp h
    obtain ⟨gap, hgap, hrest⟩ := exists_blanks_append rest
    rcases letter_cases hop with hbare | rfl | ⟨what, make, htext⟩
    · rw [actionOf_bare hbare] at hop
      obtain ⟨-, hdone⟩ := Prod.mk.inj (Except.ok.inj hop)
      rw [hdone, List.append_nil] at hrest
      exact hrest ▸ .bare hbare hgap
    · obtain ⟨source, replacement, p, all, hliterals, hp, rfl, -⟩ :=
        substitution_eq_ok_iff.mp (actionOf_substitution _ ▸ hop)
      obtain ⟨-, -, d, tail, hd, hwell, hbodies, htail⟩ := literals?_eq_some_iff.mp hliterals
      obtain ⟨gap', hgap', htail'⟩ := exists_blanks_append tail
      rw [← htail] at htail'
      rw [hrest, hbodies, htail']
      exact .replace hgap hd (hwell _ (by simp)) (hwell _ (by simp)) hp hgap'
    · rw [actionOf_text htext] at hop
      rcases hall : (Scanner.ofRest rest).all? with _ | t
      · rw [hall] at hop
        cases hop
      · rw [hall] at hop
        obtain ⟨rfl, -⟩ := Prod.mk.inj (Except.ok.inj hop)
        obtain ⟨hne, ht⟩ := all?_eq_some_iff.mp hall
        rw [hrest, ht]
        refine .text htext hgap hne ?_
        rw [← ht]
        exact Text.trimStart_trimStart rest

/-- **Stream edits are read from exactly the texts of the grammar.** -/
theorem setup_eq_ok_iff : setup s = .ok (a, act) ↔
    ∃ addr txt, AddressText addr a ∧ ActionText txt act ∧ s.rest = addr ++ txt := by
  rw [setup]
  constructor
  · intro h
    rcases haddress : address s with problem | ⟨a', left⟩
    · rw [haddress] at h
      cases h
    · rw [haddress] at h
      rcases haction : action left with problem | act'
      · simp only [haction, bind, Except.bind] at h
        cases h
      · simp only [haction, bind, Except.bind, pure, Except.pure] at h
        obtain ⟨rfl, rfl⟩ := Prod.mk.inj (Except.ok.inj h)
        obtain ⟨addr, haddr, hrest⟩ := exists_addressText haddress
        exact ⟨addr, left.rest, haddr, actionText_of_action haction, hrest⟩
  · rintro ⟨addr, txt, haddr, htxt, hrest⟩
    obtain ⟨op, hop, rest, rfl⟩ := htxt.exists_letter
    obtain rfl : s = ⟨addr ++ op :: rest⟩ := congrArg Scanner.mk hrest
    rw [haddr.address hop]
    simp only [htxt.action, bind, Except.bind, pure, Except.pure]

end Sed

end LogSift
