import LogSift.Proofs.Pattern.Bounds
/-!
# Reading a pattern that goes on

A text that has been read as a pattern may go on with a tail that closes a
group. What has been read of it stays the same, and all of the tail is left
(`Leaves`), unless a comment at the end of the text takes the tail in
(`Reads`). Here that is shown of blanks, numbers and escapes, in
`OnwardClass` of bracketed classes, and in `OnwardRun` of groups and runs.
-/


namespace LogSift

namespace Pattern

namespace Reader

open Text (after?)

variable {α : Type} {tail cs left left' rest : List Char} {v : Bool} {n m : Nat} {c : Char}

/-! ## Tails -/

/-- One line that starts by closing a group and ends no class's name. -/
structure Closing (tail : List Char) : Prop where
  head : tail.head? = some ')'
  line : '\n' ∉ tail
  colon : ':' ∉ tail

/-- In verbose mode, the text can hold a comment. -/
def Commented (v : Bool) (cs : List Char) : Prop := v = true ∧ '#' ∈ cs

/-- What is left goes on with the tail, or a comment has taken the tail in. -/
def Onward (v : Bool) (tail cs left left' : List Char) : Prop :=
  left' = left ++ tail ∨ left = [] ∧ left' = [] ∧ Commented v cs

/-- **What is read stays the same when the text goes on**, and so does what
is left, but for the tail. -/
def Leaves (tail : List Char) (f g : List Char → Except Fault (α × List Char))
    (cs : List Char) : Prop :=
  ∀ x left, f cs = .ok (x, left) → left <:+ cs ∧ g (cs ++ tail) = .ok (x, left ++ tail)

/-- **What is read stays the same when the text goes on**, and the tail is
left or taken in. -/
def Reads (v : Bool) (tail : List Char) (f g : List Char → Except Fault (α × List Char))
    (cs : List Char) : Prop :=
  ∀ x left, f cs = .ok (x, left) →
    left <:+ cs ∧ ∃ left', g (cs ++ tail) = .ok (x, left') ∧ Onward v tail cs left left'

theorem Closing.exists_cons (h : Closing tail) : ∃ more, tail = ')' :: more := by
  obtain ⟨hhead, -, -⟩ := h
  cases tail with
  | nil => cases hhead
  | cons c more => exact ⟨more, by rw [Option.some.inj hhead]⟩

/-- What starts otherwise than the tail starts with what is left. -/
theorem Closing.cons_of_append (h : Closing tail) (hc : c ≠ ')') (heq : left ++ tail = c :: rest) :
    ∃ more, left = c :: more ∧ rest = more ++ tail := by
  cases left with
  | nil =>
    obtain ⟨more, rfl⟩ := h.exists_cons
    exact absurd (List.cons.inj heq).1.symm hc
  | cons d more =>
    obtain ⟨rfl, rfl⟩ := List.cons.inj heq
    exact ⟨more, rfl, rfl⟩

theorem Commented.mono {cs' : List Char} (h : Commented v cs) (hcs : cs <:+ cs') :
    Commented v cs' := ⟨h.1, hcs.mem h.2⟩

theorem Onward.mono {cs' : List Char} (h : Onward v tail cs left left') (hcs : cs <:+ cs') :
    Onward v tail cs' left left' := by
  rcases h with h | ⟨hleft, hleft', hmem⟩
  · exact .inl h
  · exact .inr ⟨hleft, hleft', hmem.mono hcs⟩

/-- Where something is left, the tail is left, too. -/
theorem Onward.eq_of_ne_nil (h : Onward v tail cs left left') (hleft : left ≠ []) :
    left' = left ++ tail := by
  rcases h with h | ⟨hnil, -⟩
  · exact h
  · exact absurd hnil hleft

/-- Where something is left, what is read leaves the tail. -/
theorem Reads.append {f g : List Char → Except Fault (α × List Char)} {x : α}
    (h : Reads v tail f g cs) (hx : f cs = .ok (x, left)) (hleft : left ≠ []) :
    left <:+ cs ∧ g (cs ++ tail) = .ok (x, left ++ tail) := by
  obtain ⟨hsuffix, left', hg, honward⟩ := h x left hx
  exact ⟨hsuffix, honward.eq_of_ne_nil hleft ▸ hg⟩

theorem Leaves.reads {f g : List Char → Except Fault (α × List Char)} (h : Leaves tail f g cs) :
    Reads v tail f g cs := by
  intro x left hf
  obtain ⟨hsuffix, hg⟩ := h x left hf
  exact ⟨hsuffix, left ++ tail, hg, .inl rfl⟩

/-- Fuel for a text is enough where it goes on, too. -/
theorem fuel_le (tail cs : List Char) : cs.length + 1 ≤ (cs ++ tail).length + 1 := by
  rw [List.length_append]
  omega

/-! ## Blanks and comments -/

theorem dropBlank_closing (h : Closing tail) : dropBlank false tail = tail := by
  obtain ⟨more, rfl⟩ := h.exists_cons
  rw [dropBlank, if_neg (by decide), if_neg (by decide), if_neg (by decide)]

/-- A comment takes in a line. -/
theorem dropBlank_of_line (h : '\n' ∉ tail) : dropBlank true tail = [] := by
  induction tail with
  | nil => rfl
  | cons c tail ih =>
    obtain ⟨hc, htail⟩ := not_or.mp (mt List.mem_cons.mpr h)
    rw [dropBlank, if_pos rfl, bne_iff_ne.mpr (Ne.symm hc)]
    exact ih htail

theorem dropBlank_onward (h : Closing tail) (inComment : Bool) (cs : List Char) :
    dropBlank inComment cs <:+ cs ∧
      (dropBlank inComment (cs ++ tail) = dropBlank inComment cs ++ tail ∨
        dropBlank inComment cs = [] ∧ dropBlank inComment (cs ++ tail) = [] ∧
          (inComment = true ∨ '#' ∈ cs)) := by
  induction cs generalizing inComment with
  | nil =>
    refine ⟨List.suffix_refl _, ?_⟩
    cases inComment with
    | false => exact .inl (dropBlank_closing h)
    | true => exact .inr ⟨rfl, dropBlank_of_line h.line, .inl rfl⟩
  | cons c rest ih =>
    have hcons : ∀ inner, (inner = true ∨ '#' ∈ rest → inComment = true ∨ '#' ∈ c :: rest) →
        dropBlank inner rest <:+ c :: rest ∧
          (dropBlank inner (rest ++ tail) = dropBlank inner rest ++ tail ∨
            dropBlank inner rest = [] ∧ dropBlank inner (rest ++ tail) = [] ∧
              (inComment = true ∨ '#' ∈ c :: rest)) := by
      intro inner hinner
      obtain ⟨hsuffix, hrest⟩ := ih inner
      exact ⟨hsuffix.trans (List.suffix_cons c rest), hrest.imp_right
        fun ⟨hnil, hnil', hcomment⟩ => ⟨hnil, hnil', hinner hcomment⟩⟩
    simp only [List.cons_append, dropBlank]
    split
    · rename_i hcomment
      exact hcons _ fun _ => .inl hcomment
    · split
      · exact hcons _ (Or.imp Bool.noConfusion (List.mem_cons_of_mem c))
      · split
        · rename_i hc
          exact hcons _ fun _ => .inr (List.mem_cons.mpr (.inl hc.symm))
        · exact ⟨List.suffix_refl _, .inl rfl⟩

/-- **What is skipped stays the same**, unless it ends in a comment. -/
theorem skip_onward (h : Closing tail) (v : Bool) (cs : List Char) :
    skip v cs <:+ cs ∧ Onward v tail cs (skip v cs) (skip v (cs ++ tail)) := by
  cases v with
  | false => exact ⟨List.suffix_refl _, .inl rfl⟩
  | true =>
    obtain ⟨hsuffix, hskip | ⟨hnil, hnil', hcomment⟩⟩ := dropBlank_onward h false cs
    · exact ⟨hsuffix, .inl hskip⟩
    · exact ⟨hsuffix, .inr ⟨hnil, hnil', rfl, hcomment.resolve_left Bool.false_ne_true⟩⟩

theorem skip_closing (h : Closing tail) : skip v tail = tail := by
  cases v with
  | false => rfl
  | true => exact dropBlank_closing h

theorem skip_cons (h : Closing tail) (hskip : skip v cs = c :: rest) :
    c :: rest <:+ cs ∧ skip v (cs ++ tail) = c :: (rest ++ tail) := by
  obtain ⟨hsuffix, honward⟩ := skip_onward h v cs
  rw [hskip] at hsuffix honward
  exact ⟨hsuffix, honward.eq_of_ne_nil (List.cons_ne_nil c rest)⟩

/-- What is read behind a suffix is read in the whole. -/
theorem Reads.of_suffix {f g : List Char → Except Fault (α × List Char)} {x : α}
    (hf : Reads v tail f g rest) (hx : f rest = .ok (x, left)) (hsuffix : rest <:+ cs) :
    left <:+ cs ∧ ∃ left', g (rest ++ tail) = .ok (x, left') ∧ Onward v tail cs left left' := by
  obtain ⟨hleft, left', hg, honward⟩ := hf x left hx
  exact ⟨hleft.trans hsuffix, left', hg, honward.mono hsuffix⟩

/-- **Blanks and comments before what is read**: if they take the tail in, what
is read of nothing is read again. -/
theorem Reads.of_skip {f g : List Char → Except Fault (α × List Char)} {x : α} (h : Closing tail)
    (hf : Reads v tail f g (skip v rest)) (hnil : ∀ r, f [] = .ok r → g [] = .ok r)
    (hx : f (skip v rest) = .ok (x, left)) (hsuffix : rest <:+ cs) :
    left <:+ cs ∧
      ∃ left', g (skip v (rest ++ tail)) = .ok (x, left') ∧ Onward v tail cs left left' := by
  obtain ⟨hskip, honward⟩ := skip_onward h v rest
  rcases honward with honward | ⟨hskipped, hskipped', hmem⟩
  · rw [honward]
    exact hf.of_suffix hx (hskip.trans hsuffix)
  · obtain ⟨hleft, -⟩ := hf x left hx
    rw [hskipped] at hleft hx
    obtain rfl := List.suffix_nil.mp hleft
    rw [hskipped']
    exact ⟨List.nil_suffix, [], hnil _ hx, .inr ⟨rfl, rfl, hmem.mono hsuffix⟩⟩

theorem trimStart_append_closing (h : Closing tail) (cs : List Char) :
    Text.trimStart (cs ++ tail) = Text.trimStart cs ++ tail := by
  obtain ⟨more, rfl⟩ := h.exists_cons
  induction cs with
  | nil => rfl
  | cons c cs ih =>
    rw [List.cons_append, Text.trimStart, Text.trimStart, List.dropWhile_cons, List.dropWhile_cons]
    split
    · exact ih
    · rfl

theorem after?_append (h : Closing tail) {mark : List Char} (hmark : ')' ∉ mark)
    (cs : List Char) : after? mark (cs ++ tail) = (after? mark cs).map (· ++ tail) := by
  induction mark generalizing cs with
  | nil => rfl
  | cons p mark ih =>
    obtain ⟨hp, hmark⟩ := not_or.mp (mt List.mem_cons.mpr hmark)
    cases cs with
    | nil =>
      obtain ⟨more, rfl⟩ := h.exists_cons
      exact if_neg (Ne.symm hp)
    | cons c cs =>
      rw [List.cons_append, after?, after?]
      split
      · exact ih hmark cs
      · rfl

theorem after?_suffix {mark : List Char} (hafter : after? mark cs = some left) : left <:+ cs := by
  induction mark generalizing cs with
  | nil => exact Option.some.inj hafter ▸ List.suffix_refl _
  | cons p mark ih =>
    cases cs with
    | nil => cases hafter
    | cons c cs =>
      rw [after?] at hafter
      split at hafter
      · exact (ih hafter).trans (List.suffix_cons c cs)
      · cases hafter

/-! ## Numbers -/

theorem digits_nil (v : Bool) (n : Nat) : digits v n [] = ([], []) := by
  cases n <;> rfl

theorem digits_closing (h : Closing tail) (n : Nat) : digits v n tail = ([], tail) := by
  obtain ⟨more, rfl⟩ := h.exists_cons
  cases n with
  | zero => rfl
  | succ n => rw [digits, if_neg (by decide)]

theorem digits_onward (h : Closing tail) (hn : cs.length ≤ n) (hnm : n ≤ m)
    {ds : List Char} (hdigits : digits v n cs = (ds, left)) :
    left <:+ cs ∧ ∃ left', digits v m (cs ++ tail) = (ds, left') ∧ Onward v tail cs left left' := by
  induction n generalizing cs m ds with
  | zero =>
    obtain rfl := List.eq_nil_of_length_eq_zero (Nat.le_zero.mp hn)
    obtain ⟨rfl, rfl⟩ := Prod.mk.inj hdigits
    exact ⟨List.suffix_refl _, tail, digits_closing h m, .inl rfl⟩
  | succ n ih =>
    cases cs with
    | nil =>
      obtain ⟨rfl, rfl⟩ := Prod.mk.inj hdigits
      exact ⟨List.suffix_refl _, tail, digits_closing h m, .inl rfl⟩
    | cons c rest =>
      obtain ⟨m, rfl⟩ := Nat.exists_eq_add_of_le' (Nat.le_of_add_left_le hnm)
      rw [digits] at hdigits
      rw [List.cons_append, digits]
      split at hdigits
      · rename_i hc
        rw [if_pos hc]
        obtain ⟨hsuffix, hskip⟩ := skip_onward h v rest
        have hsuffix' := hsuffix.trans (List.suffix_cons c rest)
        have hlength := hsuffix.length_le
        rw [List.length_cons] at hn
        rcases hmore : digits v n (skip v rest) with ⟨more, end'⟩
        rw [hmore] at hdigits
        obtain ⟨rfl, rfl⟩ := Prod.mk.inj hdigits
        obtain ⟨hend, left', hleft', honward⟩ := ih (by omega) (Nat.le_of_succ_le_succ hnm) hmore
        refine ⟨hend.trans hsuffix', ?_⟩
        rcases hskip with hskip | ⟨hnil, hnil', hmem⟩
        · rw [hskip, hleft']
          exact ⟨left', rfl, honward.mono hsuffix'⟩
        · rw [hnil, digits_nil] at hmore
          obtain ⟨rfl, rfl⟩ := Prod.mk.inj hmore
          rw [hnil', digits_nil]
          exact ⟨[], rfl, .inr ⟨rfl, rfl, hmem.mono (List.suffix_cons c rest)⟩⟩
      · rename_i hc
        obtain ⟨rfl, rfl⟩ := Prod.mk.inj hdigits
        rw [if_neg hc]
        exact ⟨List.suffix_refl _, _, rfl, .inl rfl⟩

/-- What is left after blanks, with comments among them in verbose mode. -/
def dropBlanks (verbose : Bool) (cs : List Char) : List Char :=
  if verbose then dropBlank false cs else Text.trimStart cs

theorem dropBlanks_onward (h : Closing tail) (v : Bool) (cs : List Char) :
    dropBlanks v cs <:+ cs ∧ Onward v tail cs (dropBlanks v cs) (dropBlanks v (cs ++ tail)) := by
  cases v with
  | false => exact ⟨List.dropWhile_suffix _, .inl (trimStart_append_closing h cs)⟩
  | true => exact skip_onward h true cs

/-- A count, or what is wrong with it, stays the same. -/
theorem count_onward (h : Closing tail) {r : Except Fault Nat} (hcount : count v cs = (r, left)) :
    left <:+ cs ∧ ∃ left', count v (cs ++ tail) = (r, left') ∧ Onward v tail cs left left' := by
  have hcountEq : ∀ cs ds mid, digits v cs.length (Text.trimStart cs) = (ds, mid) → count v cs =
      (if ds.isEmpty then .error .countMissing
        else if decimalValue ds < 0x100000000 then .ok (decimalValue ds)
        else .error .decimalInvalid, dropBlanks v mid) := by
    intro cs ds mid hdigits
    rw [count, hdigits]
    simp only [dropBlanks]
    split
    · rfl
    · split <;> rfl
  have hstart : Text.trimStart cs <:+ cs := List.dropWhile_suffix _
  rcases hdigits : digits v cs.length (Text.trimStart cs) with ⟨ds, mid⟩
  obtain ⟨hmid, mid', hdigits', honward⟩ := digits_onward h hstart.length_le
    (List.length_append ▸ Nat.le_add_right cs.length tail.length) hdigits
  rw [← trimStart_append_closing h] at hdigits'
  rw [hcountEq cs ds mid hdigits] at hcount
  obtain ⟨rfl, rfl⟩ := Prod.mk.inj hcount
  refine ⟨((dropBlanks_onward h v mid).1.trans hmid).trans hstart, _,
    hcountEq (cs ++ tail) ds mid' hdigits', ?_⟩
  rcases honward with rfl | ⟨rfl, rfl, hmem⟩
  · exact (dropBlanks_onward h v mid).2.mono (hmid.trans hstart)
  · have hnil : dropBlanks v [] = [] := List.suffix_nil.mp (dropBlanks_onward h v []).1
    exact .inr ⟨hnil, hnil, hmem.mono hstart⟩

/-! ## Escapes -/

theorem hexFixed_reads (h : Closing tail) (n value : Nat) (cs : List Char) :
    Reads v tail (hexFixed v n value) (hexFixed v n value) cs := by
  induction n generalizing value cs with
  | zero =>
    intro x left hx
    obtain ⟨rfl, rfl⟩ := Prod.mk.inj (Except.ok.inj hx)
    exact ⟨List.suffix_refl _, _, rfl, .inl rfl⟩
  | succ n ih =>
    intro x left hx
    cases cs with
    | nil => cases hx
    | cons c rest =>
      rw [hexFixed] at hx
      rw [List.cons_append, hexFixed]
      split at hx
      · exact Reads.of_skip h (ih _ _) (fun _ => id) hx (List.suffix_cons c rest)
      · cases hx

theorem hexBraced_reads (h : Closing tail) (hnm : n ≤ m) (value : Option Nat) (cs : List Char) :
    Reads v tail (hexBraced v n value) (hexBraced v m value) cs := by
  induction n generalizing value cs m with
  | zero =>
    intro x left hx
    cases hx
  | succ n ih =>
    intro x left hx
    obtain ⟨m, rfl⟩ := Nat.exists_eq_add_of_le' (Nat.le_of_add_left_le hnm)
    cases cs with
    | nil => cases hx
    | cons c rest =>
      rw [hexBraced] at hx
      rw [List.cons_append, hexBraced]
      split at hx
      · rename_i hc
        rw [if_pos hc]
        obtain ⟨rfl, rfl⟩ := Prod.mk.inj (Except.ok.inj hx)
        obtain ⟨hskip, honward⟩ := skip_onward h v rest
        exact ⟨hskip.trans (List.suffix_cons c rest), _, rfl,
          honward.mono (List.suffix_cons c rest)⟩
      · rename_i hc
        rw [if_neg hc]
        split at hx
        · have hnil : ∀ value r,
              hexBraced v n value [] = .ok r → hexBraced v m value [] = .ok r := by
            intro value r hr
            cases n <;> cases hr
          exact Reads.of_skip h (ih (Nat.le_of_succ_le_succ hnm) _ _) (hnil _) hx
            (List.suffix_cons c rest)
        · cases hx

theorem hex_reads (h : Closing tail) (width : Nat) (cs : List Char) :
    Reads v tail (hex v width) (hex v width) cs := by
  intro x left hx
  rw [hex] at hx ⊢
  rcases hskip : skip v cs with _ | ⟨c, rest⟩
  · rw [hskip] at hx
    cases hx
  · obtain ⟨hsuffix, hskip'⟩ := skip_cons h hskip
    have hrest : rest <:+ cs := (List.suffix_cons c rest).trans hsuffix
    rw [hskip] at hx
    rw [hskip']
    simp only at hx ⊢
    split at hx
    · rename_i hc
      rw [if_pos hc]
      obtain ⟨⟨value, mid⟩, hvalue, hx⟩ := bind_eq_ok_iff.mp hx
      obtain ⟨hmid, mid', hvalue', honward⟩ := Reads.of_skip h
        (hexBraced_reads h (fuel_le tail rest) none _)
        (fun r hr => by cases hr) hvalue hrest
      rw [hvalue']
      simp only at hx
      split at hx
      · cases hx
      · split at hx
        · rename_i hscalar
          obtain ⟨rfl, rfl⟩ := Prod.mk.inj (Except.ok.inj hx)
          refine ⟨hmid, mid', ?_, honward⟩
          simp only [bind, Except.bind, hscalar]
        · cases hx
    · rename_i hc
      rw [if_neg hc]
      obtain ⟨⟨n, mid⟩, hn, hx⟩ := bind_eq_ok_iff.mp hx
      obtain ⟨hmid, mid', hn', honward⟩ := (hexFixed_reads h width 0 _).of_suffix hn hsuffix
      rw [← List.cons_append, hn']
      simp only at hx
      split at hx
      · rename_i hscalar
        obtain ⟨rfl, rfl⟩ := Prod.mk.inj (Except.ok.inj hx)
        refine ⟨hmid, mid', ?_, honward⟩
        simp only [bind, Except.bind, hscalar]
      · cases hx

/-- A property's name has its closing brace behind it. -/
theorem propertyName_append (h : Closing tail) (hnm : n ≤ m) {name : List Char}
    (hname : propertyName v n cs = some (name, left)) :
    left <:+ cs ∧ propertyName v m (cs ++ tail) = some (name, left ++ tail) := by
  induction n generalizing cs m name with
  | zero => cases hname
  | succ n ih =>
    obtain ⟨m, rfl⟩ := Nat.exists_eq_add_of_le' (Nat.le_of_add_left_le hnm)
    cases cs with
    | nil => cases hname
    | cons c rest =>
      rw [propertyName] at hname
      rw [List.cons_append, propertyName]
      split at hname
      · rename_i hc
        obtain ⟨rfl, rfl⟩ := Prod.mk.inj (Option.some.inj hname)
        rw [if_pos hc]
        exact ⟨List.suffix_cons c _, rfl⟩
      · rename_i hc
        rw [if_neg hc]
        obtain ⟨⟨inner, mid⟩, hinner, heq⟩ := Option.map_eq_some_iff.mp hname
        obtain ⟨rfl, rfl⟩ := Prod.mk.inj heq
        rcases hskip : skip v rest with _ | ⟨d, behind⟩
        · rw [hskip] at hinner
          cases n <;> cases hinner
        · obtain ⟨hsuffix, hskip'⟩ := skip_cons h hskip
          rw [hskip] at hinner
          obtain ⟨hmid, hinner'⟩ := ih (Nat.le_of_succ_le_succ hnm) hinner
          refine ⟨(hmid.trans hsuffix).trans (List.suffix_cons c rest), ?_⟩
          rw [hskip', ← List.cons_append, hinner']
          rfl

theorem property_reads (h : Closing tail) (negated : Bool) (cs : List Char) :
    Reads v tail (property v negated) (property v negated) cs := by
  intro x left hx
  rw [property] at hx ⊢
  rcases hskip : skip v cs with _ | ⟨c, rest⟩
  · rw [hskip] at hx
    cases hx
  · obtain ⟨hsuffix, hskip'⟩ := skip_cons h hskip
    have hrest : rest <:+ cs := (List.suffix_cons c rest).trans hsuffix
    rw [hskip] at hx
    rw [hskip']
    simp only at hx ⊢
    split at hx
    · rename_i hc
      rw [if_pos hc]
      split at hx
      · cases hx
      · rename_i name mid hname
        obtain ⟨rfl, rfl⟩ := Prod.mk.inj (Except.ok.inj hx)
        rcases hinner : skip v rest with _ | ⟨d, behind⟩
        · rw [hinner] at hname
          cases hname
        · obtain ⟨hbehind, hinner'⟩ := skip_cons h hinner
          rw [hinner] at hname
          obtain ⟨hmid, hname'⟩ := propertyName_append h (fuel_le tail rest) hname
          rw [hinner', ← List.cons_append, hname']
          exact ⟨(hmid.trans hbehind).trans hrest, _, rfl, .inl rfl⟩
    · rename_i hc
      rw [if_neg hc]
      split at hx
      · cases hx
      · rename_i hslash
        rw [if_neg hslash]
        obtain ⟨rfl, rfl⟩ := Prod.mk.inj (Except.ok.inj hx)
        obtain ⟨hbehind, honward⟩ := skip_onward h v rest
        exact ⟨hbehind.trans hrest, _, rfl, honward.mono hrest⟩

theorem boundaryName_nil (v : Bool) (n : Nat) : boundaryName v n [] = ([], []) := by
  cases n <;> rfl

/-- A boundary's name stays the same, as far as something stands behind it. -/
theorem boundaryName_append (h : Closing tail) (hn : cs.length ≤ n) (hnm : n ≤ m)
    {name : List Char} (hname : boundaryName v n cs = (name, c :: left)) :
    c :: left <:+ cs ∧ boundaryName v m (cs ++ tail) = (name, c :: left ++ tail) := by
  induction n generalizing cs m name with
  | zero =>
    obtain rfl := List.eq_nil_of_length_eq_zero (Nat.le_zero.mp hn)
    cases (Prod.mk.inj hname).2
  | succ n ih =>
    obtain ⟨m, rfl⟩ := Nat.exists_eq_add_of_le' (Nat.le_of_add_left_le hnm)
    cases cs with
    | nil => cases (Prod.mk.inj hname).2
    | cons d rest =>
      rw [boundaryName] at hname
      rw [List.cons_append, boundaryName]
      split at hname
      · rename_i hd
        rw [if_pos hd]
        rcases hskip : skip v rest with _ | ⟨e, behind⟩
        · rw [hskip, boundaryName_nil] at hname
          cases (Prod.mk.inj hname).2
        · obtain ⟨hsuffix, hskip'⟩ := skip_cons h hskip
          rw [hskip] at hname
          rcases hinner : boundaryName v n (e :: behind) with ⟨inner, mid⟩
          rw [hinner] at hname
          obtain ⟨rfl, rfl⟩ := Prod.mk.inj hname
          have hlength := hsuffix.length_le
          rw [List.length_cons] at hn
          obtain ⟨hmid, hinner'⟩ := ih (by omega) (Nat.le_of_succ_le_succ hnm) hinner
          refine ⟨(hmid.trans hsuffix).trans (List.suffix_cons d rest), ?_⟩
          rw [hskip', ← List.cons_append, hinner']
      · rename_i hd
        obtain ⟨rfl, hleft⟩ := Prod.mk.inj hname
        rw [if_neg hd, ← hleft]
        exact ⟨List.suffix_refl _, rfl⟩

/-- A boundary is a unit that leaves the tail. -/
theorem boundary_leaves (h : Closing tail) (cs : List Char) :
    Leaves tail (boundary v) (boundary v) cs := by
  intro x left hx
  unfold boundary at hx
  split at hx
  · rename_i rest
    split at hx
    · cases hx
    · rename_i c inner hskip
      obtain ⟨hsuffix, hskip'⟩ := skip_cons h hskip
      rw [List.cons_append, boundary, hskip']
      simp only
      split at hx
      · rename_i hc
        rw [if_pos hc]
        rcases hname : boundaryName v (inner.length + 1) (c :: inner) with ⟨name, mid⟩
        rw [hname] at hx
        simp only at hx
        split at hx
        · rename_i left'
          obtain ⟨hleft, hname'⟩ :=
            boundaryName_append h List.length_cons.le (fuel_le tail inner) hname
          have hrest := ((List.suffix_cons '}' left').trans hleft).trans
            (hsuffix.trans (List.suffix_cons '{' rest))
          rw [← List.cons_append, hname']
          simp only [List.cons_append]
          repeat' split at hx
          all_goals cases hx
          all_goals exact ⟨hrest, by simp [*]⟩
        · cases hx
      · rename_i hc
        rw [if_neg hc]
        obtain ⟨rfl, rfl⟩ := Prod.mk.inj (Except.ok.inj hx)
        exact ⟨List.suffix_refl _, rfl⟩
  · rename_i hbrace
    obtain ⟨rfl, rfl⟩ := Prod.mk.inj (Except.ok.inj hx)
    refine ⟨List.suffix_refl _, ?_⟩
    unfold boundary
    split
    · rename_i rest hcons
      cases cs with
      | nil =>
        obtain ⟨more, rfl⟩ := h.exists_cons
        cases (List.cons.inj hcons).1
      | cons c cs => exact (hbrace cs (by rw [(List.cons.inj hcons).1])).elim
    · rfl

theorem escape_reads (h : Closing tail) (cs : List Char) :
    Reads v tail (escape v) (escape v) cs := by
  intro x left hx
  cases cs with
  | nil => cases hx
  | cons c rest =>
    have hrest : rest <:+ c :: rest := List.suffix_cons c rest
    unfold escape at hx
    rw [List.cons_append]
    unfold escape
    simp only at hx ⊢
    split at hx
    · cases hx
    · rename_i hdigit
      rw [if_neg hdigit]
      split at hx
      · rename_i hescapable
        rw [if_pos hescapable]
        obtain ⟨rfl, rfl⟩ := Prod.mk.inj (Except.ok.inj hx)
        exact ⟨hrest, _, rfl, .inl rfl⟩
      · rename_i hescapable
        rw [if_neg hescapable]
        split at hx
        · exact (hex_reads h 2 rest).of_suffix hx hrest
        · exact (hex_reads h 4 rest).of_suffix hx hrest
        · exact (hex_reads h 8 rest).of_suffix hx hrest
        · exact (property_reads h false rest).of_suffix hx hrest
        · exact (property_reads h true rest).of_suffix hx hrest
        all_goals try exact (boundary_leaves h rest).reads.of_suffix hx hrest
        all_goals cases hx
        all_goals exact ⟨hrest, _, rfl, .inl rfl⟩

theorem atom_reads (h : Closing tail) (c : Char) (cs : List Char) :
    Reads v tail (atom v c) (atom v c) cs := by
  intro x left hx
  unfold atom at hx ⊢
  split at hx
  · rename_i hc
    rw [if_pos hc]
    exact escape_reads h cs x left hx
  · rename_i hc
    rw [if_neg hc]
    repeat' split at hx
    all_goals cases hx
    all_goals exact ⟨List.suffix_refl _, _, by simp [*], .inl rfl⟩

end Reader

end Pattern

end LogSift
