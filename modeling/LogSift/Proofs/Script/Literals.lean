import LogSift.Script.Scanner
import LogSift.Proofs.Unicode.Ascii
/-!
# Literals between delimiters

A literal is written between two delimiters, with a backslash before each
delimiter that is a part of it (`escape`). What a backslash already pairs
with stays as it is, so only a text in which no backslash pairs with the
delimiter, or stands at the end, can be written (`WellEscaped`). Reading
takes exactly what writing gives, one literal (`literal?_eq_some_iff`) or
several that share their delimiters (`literals?_eq_some_iff`).
-/


namespace LogSift

namespace Scanner

variable {d : Char} {body cs tail : List Char} {bodies : List (List Char)} {n : Nat}

/-- **A text is well escaped for a delimiter** if, read from left to right,
each backslash pairs with a character behind it other than the delimiter. -/
inductive WellEscaped (d : Char) : List Char → Prop
  | nil : WellEscaped d []
  | plain {c : Char} {cs : List Char} : c ≠ '\\' → WellEscaped d cs → WellEscaped d (c :: cs)
  | pair {c : Char} {cs : List Char} : c ≠ d → WellEscaped d cs → WellEscaped d ('\\' :: c :: cs)

/-- A text with a backslash before each delimiter that no backslash pairs
with, and all else as it is. -/
def escape (d : Char) : List Char → List Char
  | [] => []
  | c :: rest =>
    if c = '\\' then
      match rest with
      | [] => [c]
      | e :: rest => c :: e :: escape d rest
    else if c = d then '\\' :: c :: escape d rest
    else c :: escape d rest

/-- Literals as they are written: the delimiter, and each of them with the
delimiter behind it. -/
def enclosed (d : Char) (bodies : List (List Char)) : List Char :=
  d :: bodies.flatMap fun body => escape d body ++ [d]

theorem getLast?_enclosed (d : Char) (bodies : List (List Char)) :
    (enclosed d bodies).getLast? = some d := by
  rcases List.eq_nil_or_concat bodies with rfl | ⟨init, body, rfl⟩
  · rfl
  · simp [enclosed, List.getLast?_cons]

/-! ## One character -/

theorem escape_plain {c : Char} (hc : c ≠ '\\') (hcd : c ≠ d) (cs : List Char) :
    escape d (c :: cs) = c :: escape d cs := by
  conv => lhs; unfold escape
  rw [if_neg hc, if_neg hcd]

theorem escape_delimiter (hd : d ≠ '\\') (cs : List Char) :
    escape d (d :: cs) = '\\' :: d :: escape d cs := by
  conv => lhs; unfold escape
  rw [if_neg hd, if_pos rfl]

theorem escape_pair (d c : Char) (cs : List Char) :
    escape d ('\\' :: c :: cs) = '\\' :: c :: escape d cs := by
  rw [escape, if_pos rfl]

theorem literal?_plain {c : Char} (hc : c ≠ '\\') (hcd : c ≠ d) (cs : List Char) :
    literal? d (c :: cs) = (literal? d cs).map fun (body, left) => (c :: body, left) := by
  conv => lhs; unfold literal?
  rw [if_neg hc, if_neg hcd]

theorem literal?_delimiter (hd : d ≠ '\\') (cs : List Char) :
    literal? d (d :: cs) = some ([], cs) := by
  unfold literal?
  rw [if_neg hd, if_pos rfl]

theorem literal?_pair (d c : Char) (cs : List Char) :
    literal? d ('\\' :: c :: cs) = (literal? d cs).map fun (body, left) =>
      ((if c = d then [c] else ['\\', c]) ++ body, left) := by
  rw [literal?, if_pos rfl]

/-! ## One literal -/

/-- What is escaped is read back, up to the delimiter behind it. -/
theorem literal?_escape (hd : d ≠ '\\') (h : WellEscaped d body) (tail : List Char) :
    literal? d (escape d body ++ d :: tail) = some (body, tail) := by
  induction h with
  | nil => exact literal?_delimiter hd tail
  | @plain c cs hc _ ih =>
    by_cases hcd : c = d
    · subst hcd
      rw [escape_delimiter hd, List.cons_append, List.cons_append, literal?_pair, ih, if_pos rfl]
      rfl
    · rw [escape_plain hc hcd, List.cons_append, literal?_plain hc hcd, ih]
      rfl
  | @pair c cs hc _ ih =>
    rw [escape_pair, List.cons_append, List.cons_append, literal?_pair, ih, if_neg hc]
    rfl

/-- **What is read has been escaped**, and a delimiter stands behind it. -/
theorem eq_escape_of_literal? (hd : d ≠ '\\') (h : literal? d cs = some (body, tail)) :
    WellEscaped d body ∧ cs = escape d body ++ d :: tail := by
  fun_induction literal? d cs generalizing body with
  | case1 => cases h
  | case2 => cases h
  | case3 e rest ih =>
    obtain ⟨⟨more, left⟩, hmore, heq⟩ := Option.map_eq_some_iff.mp h
    obtain ⟨rfl, rfl⟩ := Prod.mk.inj heq
    obtain ⟨hwell, rfl⟩ := ih hmore
    by_cases he : e = d
    · -- the delimiter that a backslash was dropped before gets it back
      subst he
      rw [if_pos rfl, List.singleton_append, escape_delimiter hd]
      exact ⟨.plain hd hwell, rfl⟩
    · rw [if_neg he, List.cons_append, List.singleton_append, escape_pair]
      exact ⟨.pair he hwell, rfl⟩
  | case4 rest _ =>
    obtain ⟨rfl, rfl⟩ := Prod.mk.inj (Option.some.inj h)
    exact ⟨.nil, rfl⟩
  | case5 c rest hc hcd ih =>
    obtain ⟨⟨more, left⟩, hmore, heq⟩ := Option.map_eq_some_iff.mp h
    obtain ⟨rfl, rfl⟩ := Prod.mk.inj heq
    obtain ⟨hwell, rfl⟩ := ih hmore
    rw [escape_plain hc hcd]
    exact ⟨.plain hc hwell, rfl⟩

/-- **Reading a literal takes what writing it gives**, and nothing else. -/
theorem literal?_eq_some_iff (hd : d ≠ '\\') :
    literal? d cs = some (body, tail) ↔ WellEscaped d body ∧ cs = escape d body ++ d :: tail := by
  constructor
  · exact eq_escape_of_literal? hd
  · rintro ⟨hwell, rfl⟩
    exact literal?_escape hd hwell tail

/-! ## Several literals -/

theorem literalsFrom?_eq_some_iff (hd : d ≠ '\\') :
    literalsFrom? d n cs = some (bodies, tail) ↔
      bodies.length = n ∧ (∀ body ∈ bodies, WellEscaped d body) ∧
        cs = (bodies.flatMap fun body => escape d body ++ [d]) ++ tail := by
  induction n generalizing cs bodies with
  | zero =>
    rw [literalsFrom?, List.length_eq_zero_iff]
    constructor
    · intro h
      obtain ⟨rfl, rfl⟩ := Prod.mk.inj (Option.some.inj h)
      exact ⟨rfl, List.forall_mem_nil _, rfl⟩
    · rintro ⟨rfl, -, rfl⟩
      rfl
  | succ n ih =>
    constructor
    · intro h
      rw [literalsFrom?] at h
      rcases hfirst : literal? d cs with _ | ⟨body, left⟩
      · simp [hfirst] at h
      · simp only [hfirst, Option.map_eq_some_iff] at h
        obtain ⟨⟨more, left'⟩, hmore, heq⟩ := h
        obtain ⟨rfl, rfl⟩ := Prod.mk.inj heq
        obtain ⟨hwell, rfl⟩ := (literal?_eq_some_iff hd).mp hfirst
        obtain ⟨hlength, hall, rfl⟩ := ih.mp hmore
        exact ⟨by rw [List.length_cons, hlength], List.forall_mem_cons.mpr ⟨hwell, hall⟩, by simp⟩
    · rintro ⟨hlength, hall, rfl⟩
      obtain ⟨body, more, rfl⟩ := List.exists_cons_of_length_eq_add_one hlength
      obtain ⟨hwell, hall⟩ := List.forall_mem_cons.mp hall
      have hmore := ih.mpr ⟨Nat.succ.inj hlength, hall, rfl⟩
      have hfirst := literal?_escape hd hwell
        ((more.flatMap fun body => escape d body ++ [d]) ++ tail)
      rw [literalsFrom?]
      simp only [List.flatMap_cons, List.append_assoc, List.cons_append, List.nil_append, hfirst,
        hmore, Option.map_some]

/-- A delimiter is no blank. -/
theorem isBlank_of_isDelimiter (h : isDelimiter d = true) : isBlank d = false := by
  simp only [isDelimiter, Bool.and_eq_true, Bool.not_eq_true'] at h
  exact h.1.2

/-- A delimiter is no backslash. -/
theorem ne_backslash_of_isDelimiter (h : isDelimiter d = true) : d ≠ '\\' := by
  simp only [isDelimiter, Bool.and_eq_true, bne_iff_ne] at h
  exact h.2

/-- **Reading literals takes what writing them gives**, and the blanks behind
it. -/
theorem literals?_eq_some_iff {s left : Scanner} {parts : List String} :
    s.literals? n = some (parts, left) ↔ 0 < n ∧ parts.length = n ∧
      ∃ d tail, isDelimiter d = true ∧ (∀ p ∈ parts, WellEscaped d p.toList) ∧
        s.rest = enclosed d (parts.map String.toList) ++ tail ∧ left = ofRest tail := by
  constructor
  · intro h
    rw [literals?] at h
    split at h
    · cases h
    · rename_i d rest hrest
      split at h
      · cases h
      · rename_i hcond
        simp only [Bool.or_eq_true, decide_eq_true_eq, Bool.not_eq_true', not_or,
          Bool.not_eq_false] at hcond
        obtain ⟨hn, hd⟩ := hcond
        obtain ⟨⟨bodies, tail⟩, hbodies, heq⟩ := Option.map_eq_some_iff.mp h
        obtain ⟨rfl, rfl⟩ := Prod.mk.inj heq
        obtain ⟨hlength, hall, rfl⟩ :=
          (literalsFrom?_eq_some_iff (ne_backslash_of_isDelimiter hd)).mp hbodies
        refine ⟨Nat.pos_of_ne_zero hn, by rw [List.length_map, hlength], d, tail, hd, ?_, ?_, rfl⟩
        · intro p hp
          obtain ⟨body, hbody, rfl⟩ := List.mem_map.mp hp
          rw [String.toList_ofList]
          exact hall body hbody
        · rw [hrest, List.map_map]
          simp [enclosed, Function.comp_def]
  · rintro ⟨hn, hlength, d, tail, hd, hall, hrest, rfl⟩
    have hbodies : literalsFrom? d n
        (((parts.map String.toList).flatMap fun body => escape d body ++ [d]) ++ tail) =
        some (parts.map String.toList, tail) := by
      refine (literalsFrom?_eq_some_iff (ne_backslash_of_isDelimiter hd)).mpr ⟨?_, ?_, rfl⟩
      · rw [List.length_map, hlength]
      · intro body hbody
        obtain ⟨p, hp, rfl⟩ := List.mem_map.mp hbody
        exact hall p hp
    rw [enclosed, List.cons_append] at hrest
    rw [literals?, hrest]
    simp only
    rw [if_neg (by simp [hd]; omega), hbodies, Option.map_some, List.map_map]
    simp [Function.comp_def]

/-- One literal is a list of one. -/
theorem literalText?_eq_some_iff {s left : Scanner} {body : String} :
    s.literalText? = some (body, left) ↔ s.literals? 1 = some ([body], left) := by
  rw [literalText?]
  constructor
  · intro h
    split at h
    · rename_i hliterals
      obtain ⟨rfl, rfl⟩ := Prod.mk.inj (Option.some.inj h)
      exact hliterals
    · cases h
  · intro h
    rw [h]

/-- What is left after something was to be taken: all that was left before,
if it was not there. -/
def leftAfter {α : Type} (s : Scanner) (taken : Option (α × Scanner)) : Scanner :=
  (taken.map (·.2)).getD s

/-- **Literals round-trip.** Well-escaped texts that are written between
delimiters are read back, whatever follows them, and the blanks behind them
are skipped. All that is read has been written so. If nothing is read,
nothing is taken, and what is left does not start with literals that are
written so. -/
theorem literals_round_trip (n : Nat) (s : Scanner) :
    (∀ (d : Char) (parts : List String) (tail : List Char), isDelimiter d = true → 0 < n →
        parts.length = n → (∀ p ∈ parts, WellEscaped d p.toList) →
        s.rest = enclosed d (parts.map String.toList) ++ tail →
        s.literals? n = some (parts, ofRest tail)) ∧
      (∀ (parts : List String) (left : Scanner), s.literals? n = some (parts, left) →
        parts.length = n ∧ ∃ d tail, isDelimiter d = true ∧ (∀ p ∈ parts, WellEscaped d p.toList) ∧
          s.rest = enclosed d (parts.map String.toList) ++ tail ∧ left = ofRest tail) ∧
      (s.literals? n = none → s.leftAfter (s.literals? n) = s ∧
        ∀ (d : Char) (parts : List String), isDelimiter d = true → 0 < n → parts.length = n →
          (∀ p ∈ parts, WellEscaped d p.toList) →
          ¬ enclosed d (parts.map String.toList) <+: s.rest) := by
  refine ⟨?_, ?_, fun hnone => ⟨?_, ?_⟩⟩
  · intro d parts tail hd hn hlength hall hrest
    exact literals?_eq_some_iff.mpr ⟨hn, hlength, d, tail, hd, hall, hrest, rfl⟩
  · intro parts left h
    exact (literals?_eq_some_iff.mp h).2
  · rw [hnone]
    rfl
  · rintro d parts hd hn hlength hall ⟨tail, htail⟩
    have hsome := literals?_eq_some_iff.mpr ⟨hn, hlength, d, tail, hd, hall, htail.symm, rfl⟩
    rw [hnone] at hsome
    cases hsome

/-- The slash delimits literals. -/
theorem isDelimiter_slash : isDelimiter '/' = true := by
  rw [isDelimiter, Unicode.alphanumeric_contains_of_lt (by decide)]
  decide

/-- A delimiter that is a part of a literal, two backslashes before the
next delimiter, and an empty literal. -/
theorem literals_round_trip_of_backslashes :
    let s : Scanner := ⟨"/a\\/b\\\\//  g".toList⟩
    let parts := ["a/b\\\\", ""]
    isDelimiter '/' = true ∧ (∀ p ∈ parts, WellEscaped '/' p.toList) ∧
      s.rest = enclosed '/' (parts.map String.toList) ++ "  g".toList ∧
      s.literals? 2 = some (parts, ⟨['g']⟩) := by
  intro s parts
  have hall : ∀ p ∈ parts, WellEscaped '/' p.toList := by
    intro p hp
    simp only [parts, List.mem_cons, List.not_mem_nil, or_false] at hp
    rcases hp with rfl | rfl
    · exact .plain (by decide) (.plain (by decide) (.plain (by decide) (.pair (by decide) .nil)))
    · exact .nil
  have hrest : s.rest = enclosed '/' (parts.map String.toList) ++ "  g".toList := by decide
  exact ⟨isDelimiter_slash, hall, hrest,
    (literals_round_trip 2 s).1 '/' parts "  g".toList isDelimiter_slash (by decide) rfl hall hrest⟩

end Scanner

end LogSift
