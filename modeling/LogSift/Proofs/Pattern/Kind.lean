import LogSift.Proofs.Pattern.Report
import LogSift.Proofs.Text.Lines
import LogSift.Proofs.Text.Replacing
/-!
# What tells the kind of a rejection

The kind of a rejection is looked for in the words of the report, and the
report quotes the source. So it is told by the words of the diagnosis or
by those of the source, whichever are looked for first (`kind_told`). Other
lines between the heading and the verdict change nothing (`classify_laid`).
The words of the diagnosis are those of the fault (`ofWords_diagnosis`); where
the source has none of the words that are looked for, the kind is told by
the fault and by whether a delimiter of the source is left open.
-/


namespace LogSift

namespace Text

variable {word a b cs : List Char} {c : Char} {f : Char → Char}

/-! ## Words of a text -/

/-- A word stands on one side of a character that it does not have. -/
theorem infix_append_cons_iff (hc : c ∉ word) :
    word <:+: a ++ c :: b ↔ word <:+: a ∨ word <:+: b := by
  constructor
  · rintro ⟨s, t, heq⟩
    rw [List.append_assoc, List.append_eq_append_iff] at heq
    rcases heq with ⟨a', rfl, hrest⟩ | ⟨s', rfl, hrest⟩
    · rw [List.append_eq_append_iff] at hrest
      rcases hrest with ⟨x, rfl, -⟩ | ⟨x, rfl, hx⟩
      · exact .inl ⟨s, x, List.append_assoc _ _ _⟩
      · cases x with
        | nil => exact .inl ⟨s, [], by simp⟩
        | cons d x =>
          -- the word would go on over the character
          obtain ⟨rfl, -⟩ := List.cons.inj hx
          simp at hc
    · cases s' with
      | nil =>
        cases word with
        | nil => exact .inr (List.nil_infix)
        | cons d word =>
          obtain ⟨rfl, -⟩ := List.cons.inj hrest
          simp at hc
      | cons d s' =>
        obtain ⟨-, rfl⟩ := List.cons.inj hrest
        exact .inr ⟨s', t, List.append_assoc _ _ _⟩
  · rintro (h | h)
    · exact h.trans (List.infix_append' [] a (c :: b))
    · exact h.trans ((List.suffix_cons c b).isInfix.trans (List.suffix_append a _).isInfix)

/-- The lines of a text have the words of the text, if no word goes over the end of a line. -/
theorem exists_mem_linesFrom_infix (hword : word ≠ []) (hnewline : '\n' ∉ word)
    (hreturn : '\r' ∉ word) (hfn : f '\n' = '\n') (hfr : f '\r' = '\r') (line cs : List Char) :
    (∃ l ∈ linesFrom [] line cs, word <:+: l.map f) ↔
      word <:+: (line.reverse ++ cs).map f := by
  induction cs generalizing line with
  | nil =>
    rw [List.append_nil, linesFrom]
    cases line with
    | nil => simpa using hword
    | cons c line => simp
  | cons c cs ih =>
    by_cases hc : c = '\n'
    · subst hc
      have hclose : word <:+: (closeLine line).map f ↔ word <:+: line.reverse.map f := by
        rw [closeLine.eq_def]
        split
        · rename_i rest
          rw [List.reverse_cons, List.map_append, List.map_singleton, hfr,
            infix_append_cons_iff hreturn, List.infix_nil, or_iff_left hword]
        · rfl
      have hsplit : (line.reverse ++ '\n' :: cs).map f = line.reverse.map f ++ '\n' :: cs.map f := by
        rw [List.map_append, List.map_cons, hfn]
      simp only [linesFrom_newline, List.mem_cons, exists_eq_or_imp]
      rw [hclose, lines, ih, hsplit, infix_append_cons_iff hnewline]
      rfl
    · rw [linesFrom_cons hc, ih, List.reverse_cons, List.append_assoc]
      rfl

end Text

namespace Pattern

open Rejection (mentions openDelimiter?)

/-! ## Words that are looked for -/

/-- Has a text a word, in any case? -/
def speaksOf (text : List Char) (word : String) : Bool :=
  Text.holds word.toList (text.map lowerAscii)

theorem speaksOf_iff {text : List Char} {word : String} :
    speaksOf text word = true ↔ word.toList <:+: text.map lowerAscii :=
  Text.holds_iff_infix

/-- The words that tell a kind. -/
def keywords : List String :=
  ["unclosed", "look-around", "lookaround", "backreference", "repetition", "quantifier"]

/-- They are made of small letters and dashes, and neither the heading nor what stands before the
diagnosis has one. -/
theorem of_mem_keywords {word : String} (hword : word ∈ keywords) :
    (word.toList ≠ [] ∧ ∀ c ∈ word.toList, c.isLower = true ∨ c = '-') ∧
      speaksOf Fault.heading word = false ∧ speaksOf "error:".toList word = false := by
  have hkeywords : ∀ word ∈ keywords, (word.toList ≠ [] ∧
      word.toList.all (fun c => c.isLower || c = '-') = true) ∧
      speaksOf Fault.heading word = false ∧ speaksOf "error:".toList word = false := by
    decide +kernel
  obtain ⟨⟨hne, hletters⟩, hsilent⟩ := hkeywords word hword
  exact ⟨⟨hne, by simpa using hletters⟩, hsilent⟩

variable {source compiled : List Char} {f : Fault} {r : Rejection} {word : String}

theorem notMem_of_mem_keywords (hword : word ∈ keywords) {c : Char} (hlower : c.isLower = false)
    (hdash : c ≠ '-') : c ∉ word.toList := by
  intro hmem
  rcases (of_mem_keywords hword).1.2 c hmem with h | h
  · rw [hlower] at h
    cases h
  · exact hdash h

/-- Any other character stands between words. -/
def Separates (c : Char) : Prop := lowerAscii c = c ∧ c.isLower = false ∧ c ≠ '-'

instance : DecidablePred Separates := fun _ => inferInstanceAs (Decidable (_ ∧ _))

theorem speaksOf_append_cons (hword : word ∈ keywords) {c : Char} (hc : Separates c)
    (a b : List Char) :
    speaksOf (a ++ c :: b) word = (speaksOf a word || speaksOf b word) := by
  rw [Bool.eq_iff_iff, Bool.or_eq_true, speaksOf_iff, speaksOf_iff, speaksOf_iff, List.map_append,
    List.map_cons, hc.1, Text.infix_append_cons_iff (notMem_of_mem_keywords hword hc.2.1 hc.2.2)]

theorem speaksOf_nil (hword : word ∈ keywords) : speaksOf [] word = false := by
  rw [Bool.eq_false_iff]
  exact fun h => (of_mem_keywords hword).1.1 (List.infix_nil.mp (speaksOf_iff.mp h))

theorem speaksOf_cons (hword : word ∈ keywords) {c : Char} (hc : Separates c) (b : List Char) :
    speaksOf (c :: b) word = speaksOf b word := by
  have happend := speaksOf_append_cons hword hc [] b
  rwa [List.nil_append, speaksOf_nil hword, Bool.false_or] at happend

/-- So what is made of such characters adds no words to what is behind it. -/
theorem speaksOf_append (hword : word ∈ keywords) {front : List Char}
    (hfront : ∀ c ∈ front, Separates c) (b : List Char) :
    speaksOf (front ++ b) word = speaksOf b word := by
  induction front with
  | nil => rfl
  | cons c front ih =>
    obtain ⟨hc, hfront⟩ := List.forall_mem_cons.mp hfront
    rw [List.cons_append, speaksOf_cons hword hc, ih hfront]

/-- **The anchors add no words.** -/
theorem speaksOf_wrapped (hword : word ∈ keywords) (source : List Char) :
    speaksOf (wrapped source) word = speaksOf source word := by
  have hwrapped : wrapped source = '^' :: '(' :: '?' :: ':' :: (source ++ [')', '$']) := rfl
  rw [hwrapped, speaksOf_cons hword (by decide), speaksOf_cons hword (by decide),
    speaksOf_cons hword (by decide), speaksOf_cons hword (by decide),
    speaksOf_append_cons hword (by decide), speaksOf_cons hword (by decide), speaksOf_nil hword,
    Bool.or_false]

/-- A line is quoted behind an indent. -/
theorem separates_indent : ∀ c ∈ "    ".toList, Separates c := by
  have hspaces : "    ".toList = List.replicate 4 ' ' := rfl
  intro c hc
  rw [hspaces] at hc
  rw [List.eq_of_mem_replicate hc]
  decide

/-- The heading has none of the words. -/
theorem mentions_between (hword : word ∈ keywords) (laid : List (List Char)) (f : Fault) :
    mentions (Fault.heading :: laid ++ [f.verdict]) word =
      (mentions laid word || speaksOf f.verdict word) := by
  change (Fault.heading :: laid ++ [f.verdict]).any (speaksOf · word) = _
  rw [List.cons_append, List.any_cons, (of_mem_keywords hword).2.1, Bool.false_or, List.any_append,
    List.any_cons, List.any_nil, Bool.or_false]
  rfl

/-- **A report has the words of its diagnosis and those of the text it quotes.** -/
theorem mentions_report (hword : word ∈ keywords) (f : Fault) (compiled : List Char) :
    mentions (f.report compiled) word =
      (speaksOf f.diagnosis.toList word || speaksOf compiled word) := by
  obtain ⟨⟨hne, -⟩, -, herror⟩ := of_mem_keywords hword
  have hquoted : ((Text.lines compiled).map fun l => "    ".toList ++ l).any
      (speaksOf · word) = speaksOf compiled word := by
    have hindent : ∀ l : List Char, speaksOf ("    ".toList ++ l) word = speaksOf l word :=
      speaksOf_append hword separates_indent
    have hlines := Text.exists_mem_linesFrom_infix (f := lowerAscii) hne
      (notMem_of_mem_keywords hword (c := '\n') (by decide) (by decide))
      (notMem_of_mem_keywords hword (c := '\r') (by decide) (by decide)) (by decide) (by decide)
      [] compiled
    rw [List.any_map, Bool.eq_iff_iff, List.any_eq_true, speaksOf_iff]
    simp only [Function.comp_apply, hindent, speaksOf_iff]
    exact hlines
  have hverdict : speaksOf f.verdict word = speaksOf f.diagnosis.toList word := by
    have hsplit : f.verdict = "error:".toList ++ ' ' :: f.diagnosis.toList := rfl
    rw [hsplit, speaksOf_append_cons hword (by decide), herror, Bool.false_or]
  rw [Fault.report, mentions_between hword, hverdict, Bool.or_comm]
  exact congrArg (_ || ·) hquoted

/-! ## Other lines of a report -/

/-- **What a report has between the heading and the verdict**: the lines that are quoted, behind
what has no words (an indent, or a number), and before, between and behind them lines without
words (that mark a place, divide, or tell places). -/
inductive Laid : List (List Char) → List (List Char) → Prop
  | nil : Laid [] []
  | quoted {front line : List Char} {lines laid : List (List Char)} :
      (∀ c ∈ front, Separates c) → Laid lines laid → Laid (line :: lines) ((front ++ line) :: laid)
  | silent {line : List Char} {lines laid : List (List Char)} :
      (∀ word ∈ keywords, speaksOf line word = false) → Laid lines laid → Laid lines (line :: laid)

variable {lines laid laid' : List (List Char)}

/-- It has the words of the lines that are quoted. -/
theorem Laid.mentions_eq (h : Laid lines laid) (hword : word ∈ keywords) :
    mentions laid word = mentions lines word := by
  induction h with
  | nil => rfl
  | @quoted front line lines laid hfront _ ih =>
    change (speaksOf (front ++ line) word || mentions laid word) =
      (speaksOf line word || mentions lines word)
    rw [speaksOf_append hword hfront, ih]
  | @silent line lines laid hsilent _ ih =>
    change (speaksOf line word || mentions laid word) = mentions lines word
    rw [hsilent word hword, ih, Bool.false_or]

/-- Only the words that are looked for, the first line and the last one make the kind. -/
theorem Rejection.classify_congr {report report' : List (List Char)}
    (hwords : ∀ word ∈ keywords, mentions report word = mentions report' word)
    (hfirst : firstLine report = firstLine report') (hlast : lastLine report = lastLine report')
    (pattern : List Char) : classify report pattern = classify report' pattern := by
  simp only [keywords, List.forall_mem_cons] at hwords
  obtain ⟨h₁, h₂, h₃, h₄, h₅, h₆, -⟩ := hwords
  rw [classify, classify, h₁, h₂, h₃, h₄, h₅, h₆, hfirst, hlast]

/-- **The lines of a report that are left out change no kind**, nor does what stands in front of the
lines that are quoted. -/
theorem classify_laid (h : Laid (Text.lines compiled) laid) (f : Fault) (pattern : List Char) :
    Rejection.classify (Fault.heading :: laid ++ [f.verdict]) pattern =
      Rejection.classify (f.report compiled) pattern := by
  -- what the model quotes is one way to lay it out
  have hindent : Laid (Text.lines compiled)
      ((Text.lines compiled).map fun l => "    ".toList ++ l) := by
    induction Text.lines compiled with
    | nil => exact .nil
    | cons line lines ih => exact .quoted separates_indent ih
  refine Rejection.classify_congr (fun word hword => ?_) ?_ ?_ pattern
  · rw [Fault.report, mentions_between hword, mentions_between hword, h.mentions_eq hword,
      hindent.mentions_eq hword]
  · rw [Rejection.firstLine_between, Rejection.firstLine_report]
  · rw [Rejection.lastLine_between, Rejection.lastLine_report]

/-! ## Kinds -/

/-- The kinds of rejections without what they carry, in the order in which they are looked for. -/
inductive Variant
  | tooBig
  | unclosedDelimiter
  | lookAround
  | backreference
  | invalidQuantifier
  | syntaxError
deriving DecidableEq, Repr

/-- A kind without what it carries. -/
def RejectionKind.variant : RejectionKind → Variant
  | .tooBig => .tooBig
  | .unclosedDelimiter _ _ => .unclosedDelimiter
  | .lookAround => .lookAround
  | .backreference => .backreference
  | .invalidQuantifier _ => .invalidQuantifier
  | .syntaxError _ => .syntaxError

namespace Variant

/-- The place in the order. -/
def rank : Variant → Nat
  | tooBig => 0
  | unclosedDelimiter => 1
  | lookAround => 2
  | backreference => 3
  | invalidQuantifier => 4
  | syntaxError => 5

/-- The one of two that is looked for first. -/
def first (a b : Variant) : Variant := if b.rank < a.rank then b else a

/-- The kind that words tell. Words of something unclosed tell it only if a delimiter is `left`
open. -/
def ofWords (left : Bool) (has : String → Bool) : Variant :=
  if has "unclosed" && left then unclosedDelimiter
  else if has "look-around" || has "lookaround" then lookAround
  else if has "backreference" then backreference
  else if has "repetition" || has "quantifier" then invalidQuantifier
  else syntaxError

end Variant

/-- **The kind that belongs to a fault**, where a delimiter is `left` open or none is. -/
def Fault.variant (left : Bool) : Fault → Variant
  | tooBig => .tooBig
  | lookAround => .lookAround
  | backreference => .backreference
  | groupUnclosed | classUnclosed | groupNameUnfinished | boundaryUnclosed =>
    if left then .unclosedDelimiter else .syntaxError
  | countUnclosed => if left then .unclosedDelimiter else .invalidQuantifier
  | countReversed | countMissing | repetitionMissing | boundaryUnfinished => .invalidQuantifier
  | _ => .syntaxError

namespace Variant

/-- One kind more before others. -/
theorem first_ite {v a b : Variant} (ha : v.rank < a.rank) (hb : v.rank < b.rank) (p q : Bool) :
    first (if p then v else a) (if q then v else b) = if p || q then v else first a b := by
  cases p <;> cases q <;> simp [first, ha]
  all_goals omega

/-- **Words of two texts** tell the kind that is looked for first. -/
theorem ofWords_or (left : Bool) (p q : String → Bool) :
    ofWords left (fun w => p w || q w) = (ofWords left p).first (ofWords left q) := by
  -- each kind comes before all that are looked for after it
  have hquantifier : invalidQuantifier.rank < syntaxError.rank := by decide
  have hbackreference : ∀ a : Bool, backreference.rank <
      (if a then invalidQuantifier else syntaxError).rank := by decide
  have hlookAround : ∀ a b : Bool, lookAround.rank <
      (if a then backreference else if b then invalidQuantifier else syntaxError).rank := by decide
  have hunclosed : ∀ a b c : Bool, unclosedDelimiter.rank <
      (if a then lookAround else if b then backreference
        else if c then invalidQuantifier else syntaxError).rank := by decide
  have hand : ∀ a b c : Bool, ((a || b) && c) = (a && c || b && c) := by decide
  have hor : ∀ a b c d : Bool, (a || b || (c || d)) = (a || c || (b || d)) := by decide
  rw [ofWords, ofWords, ofWords, first_ite (hunclosed _ _ _) (hunclosed _ _ _),
    first_ite (hlookAround _ _) (hlookAround _ _),
    first_ite (hbackreference _) (hbackreference _), first_ite hquantifier hquantifier, hand,
    hor (p "look-around"), hor (p "repetition")]
  rfl

/-- The kind that a report is condensed to is the one that its words tell. -/
theorem variant_classify (report : List (List Char)) (pattern : List Char) :
    (Rejection.classify report pattern).variant =
      ofWords (openDelimiter? pattern).isSome (mentions report) := by
  have hnone : ∀ a b c : Bool,
      RejectionKind.variant (if a then .lookAround else if b then .backreference
        else if c then .invalidQuantifier (Rejection.firstLine report)
        else .syntaxError (Rejection.lastLine report)) =
      if a then lookAround else if b then backreference else if c then invalidQuantifier
        else syntaxError := by
    intro a b c
    cases a <;> cases b <;> cases c <;> rfl
  rw [Rejection.classify, ofWords]
  cases mentions report "unclosed" with
  | false => exact hnone _ _ _
  | true =>
    cases hopen : openDelimiter? pattern with
    | none => exact hnone _ _ _
    | some kind =>
      obtain ⟨opener, position, rfl⟩ := Rejection.exists_of_openDelimiter? hopen
      rfl

end Variant

/-- **The words of a diagnosis** tell the kind that belongs to the fault. -/
theorem ofWords_diagnosis (left : Bool) (hf : f ≠ .tooBig) :
    Variant.ofWords left (speaksOf f.diagnosis.toList) = f.variant left := by
  let P (l : List Char) : Prop := ∀ left, Variant.ofWords left (speaksOf l) = f.variant left
  revert left
  change P f.diagnosis.toList
  cases f with
  | tooBig => exact absurd rfl hf
  | nestedTooDeep => decide +kernel
  | boundaryUnrecognized | boundaryUnfinished =>
    exact Fault.of_letters String.ofList_append.symm (by decide +kernel)
  | _ => exact Fault.of_letters rfl (by decide +kernel)

/-- The text that is reported with a fault has the words of the source. -/
theorem RefusedFor.speaksOf_eq (h : RefusedFor source f compiled) (hword : word ∈ keywords) :
    speaksOf compiled word = speaksOf source word := by
  cases h with
  | own => rfl
  | anchored => exact speaksOf_wrapped hword source

/-- Only the words that are looked for tell a kind. -/
theorem Variant.ofWords_congr {left : Bool} {p q : String → Bool}
    (h : ∀ word ∈ keywords, p word = q word) : ofWords left p = ofWords left q := by
  simp only [keywords, List.forall_mem_cons] at h
  obtain ⟨h₁, h₂, h₃, h₄, h₅, h₆, -⟩ := h
  rw [ofWords, ofWords, h₁, h₂, h₃, h₄, h₅, h₆]

/-- **The kind of a rejection** is told by the fault or by the words of the source. -/
theorem RefusedFor.variant_eq (h : RefusedFor source f compiled) :
    (Rejection.ofFault f compiled source).kind.variant =
      (f.variant (openDelimiter? source).isSome).first
        (.ofWords (openDelimiter? source).isSome (speaksOf source)) := by
  rw [Rejection.ofFault]
  by_cases hbig : f = .tooBig
  · subst hbig
    rfl
  · rw [if_neg hbig, Variant.variant_classify, ← ofWords_diagnosis _ hbig, ← Variant.ofWords_or]
    refine Variant.ofWords_congr fun word hword => ?_
    rw [mentions_report hword, h.speaksOf_eq hword]

theorem Variant.first_ofWords_of_silent {text : List Char} {left : Bool}
    (h : ∀ word ∈ keywords, speaksOf text word = false) (v : Variant) :
    v.first (ofWords left (speaksOf text)) = v := by
  rw [ofWords_congr (q := fun _ => false) h]
  cases v <;> rfl

/-- The faults that a kind belongs to. -/
theorem Fault.mem_of_variant (left : Bool) (f : Fault) :
    (f.variant left = .lookAround → f = .lookAround) ∧
      (f.variant left = .backreference → f = .backreference) ∧
      (f.variant left = .invalidQuantifier →
        f ∈ [.countReversed, .countMissing, .countUnclosed, .repetitionMissing,
          .boundaryUnfinished]) ∧
      (f.variant left = .unclosedDelimiter →
        f ∈ [.groupUnclosed, .classUnclosed, .countUnclosed, .groupNameUnfinished,
          .boundaryUnclosed]) := by
  cases f <;> cases left <;> decide

/-- **What tells the kind of a rejection.** It is the kind that belongs to the fault for which the
source is refused, or the one that the words of the source tell, whichever is
looked for first. So a source without words that are looked for is rejected with the
kind that belongs to its fault: for a look-around or a backreference only if that
is the fault, for a quantifier only if the fault is one of a repetition, and for a
delimiter only if something is not closed. -/
theorem kind_told {source : String} (hr : ofSource source = .error r) :
    ∃ (f : Fault) (compiled : List Char), RefusedFor source.toList f compiled ∧
      let left := (openDelimiter? source.toList).isSome
      r.kind.variant = (f.variant left).first (.ofWords left (speaksOf source.toList)) ∧
      ((∀ word ∈ keywords, speaksOf source.toList word = false) →
        r.kind.variant = f.variant left ∧
        (r.kind.variant = .lookAround → f = .lookAround) ∧
        (r.kind.variant = .backreference → f = .backreference) ∧
        (r.kind.variant = .invalidQuantifier →
          f ∈ [.countReversed, .countMissing, .countUnclosed, .repetitionMissing,
            .boundaryUnfinished]) ∧
        (r.kind.variant = .unclosedDelimiter →
          f ∈ [.groupUnclosed, .classUnclosed, .countUnclosed, .groupNameUnfinished,
            .boundaryUnclosed])) := by
  obtain ⟨f, compiled, hf, rfl⟩ := ofSource_eq_error_iff.mp hr
  refine ⟨f, compiled, hf, hf.variant_eq, fun hsilent => ?_⟩
  have hvariant := hf.variant_eq.trans (Variant.first_ofWords_of_silent hsilent _)
  refine ⟨hvariant, ?_⟩
  rw [hvariant]
  exact f.mem_of_variant _

/-- A source that speaks of repetitions leaves a class open: the words of what is not closed are
looked for before. -/
theorem kind_told_of_repetition :
    ∃ r, ofSource "Repetition [a" = .error r ∧ r.kind = .unclosedDelimiter '[' 11 ∧
      r.kind.variant = (Fault.classUnclosed.variant true).first
        (.ofWords true (speaksOf "Repetition [a".toList)) := by
  have hfault : compile "Repetition [a".toList = .error .classUnclosed := by rfl
  have hr : ofSource "Repetition [a" = .error
      (Rejection.ofFault .classUnclosed "Repetition [a".toList "Repetition [a".toList) :=
    ofSource_eq_error_iff.mpr ⟨_, _, .own hfault, rfl⟩
  have hkind : (Rejection.ofFault .classUnclosed "Repetition [a".toList
      "Repetition [a".toList).kind = .unclosedDelimiter '[' 11 := by decide +kernel
  obtain ⟨f, compiled, hf, hvariant, -⟩ := kind_told hr
  obtain ⟨rfl, -⟩ := hf.unique (.own hfault)
  have hopen : (openDelimiter? "Repetition [a".toList).isSome = true := by decide +kernel
  rw [hopen] at hvariant
  exact ⟨_, hr, hkind, hvariant⟩

/-- **The kind is not told by the fault alone**: the same fault has another kind where the source
has words of an earlier one. -/
theorem not_kind_of_fault : ¬ ∃ kindOf : Fault → Variant,
    ∀ (source : String) (r : Rejection) (f : Fault) (compiled : List Char),
      ofSource source = .error r → RefusedFor source.toList f compiled →
        r.kind.variant = kindOf f := by
  rintro ⟨kindOf, h⟩
  have hplain : compile "\\1".toList = .error .backreference := by rfl
  have hworded : compile "lookaround\\1".toList = .error .backreference := by rfl
  have hkind := h "\\1" _ _ _ (ofSource_eq_error_iff.mpr ⟨_, _, .own hplain, rfl⟩) (.own hplain)
  rw [← h "lookaround\\1" _ _ _ (ofSource_eq_error_iff.mpr ⟨_, _, .own hworded, rfl⟩)
    (.own hworded)] at hkind
  revert hkind
  decide +kernel

end Pattern

end LogSift
