import LogSift.Text.Bytes
/-!
# Boundaries of a text

An offset is a boundary of a text iff some beginning of the text is that
many bytes long (`isBoundary_iff`). So boundaries are carried by appending
(`isBoundary_append_left`, `isBoundary_append_right`), a text is cut at a
boundary into the beginning and the rest (`splitBytes_append`), the part
between two of them is a slice (`slice_append`), and slices that meet at
one are put together (`slice_append_slice`).
-/


namespace LogSift

namespace Text

variable {cs pre front back : List Char} {n : Nat}

/-! ## Lengths -/

theorem foldl_utf8Size (n : Nat) (cs : List Char) :
    cs.foldl (fun n c => n + c.utf8Size) n = n + byteLength cs := by
  induction cs generalizing n with
  | nil => rfl
  | cons c cs ih =>
    simp only [byteLength, List.foldl_cons]
    rw [ih, ih (0 + c.utf8Size)]
    omega

@[simp] theorem byteLength_nil : byteLength [] = 0 := rfl

@[simp] theorem byteLength_cons (c : Char) (cs : List Char) :
    byteLength (c :: cs) = c.utf8Size + byteLength cs := by
  rw [byteLength, List.foldl_cons, foldl_utf8Size, Nat.zero_add]

@[simp] theorem byteLength_append (front back : List Char) :
    byteLength (front ++ back) = byteLength front + byteLength back := by
  rw [byteLength, List.foldl_append, foldl_utf8Size, foldl_utf8Size, Nat.zero_add]

/-- A text without bytes has no characters: each takes one at least. -/
theorem eq_nil_of_byteLength_eq_zero (h : byteLength cs = 0) : cs = [] := by
  cases cs with
  | nil => rfl
  | cons c cs =>
    have := c.utf8Size_pos
    rw [byteLength_cons] at h
    omega

/-- A beginning is not longer. -/
theorem byteLength_le_of_prefix (h : pre <+: cs) : byteLength pre ≤ byteLength cs := by
  obtain ⟨rest, rfl⟩ := h
  rw [byteLength_append]
  omega

/-! ## Boundaries -/

/-- **A boundary is the length of a beginning.** -/
theorem isBoundary_iff : isBoundary n cs = true ↔ ∃ pre, pre <+: cs ∧ byteLength pre = n := by
  induction n, cs using isBoundary.induct with
  | case1 cs => simpa [isBoundary] using ⟨[], List.nil_prefix, rfl⟩
  | case2 n =>
    simp only [isBoundary, Bool.false_eq_true, List.prefix_nil, false_iff]
    rintro ⟨_, rfl, h⟩
    simp at h
  | case3 n c cs ih =>
    simp only [isBoundary, Bool.and_eq_true, decide_eq_true_eq, ih]
    constructor
    · rintro ⟨hc, pre, hpre, hn⟩
      refine ⟨c :: pre, List.cons_prefix_cons.mpr ⟨rfl, hpre⟩, ?_⟩
      rw [byteLength_cons]
      omega
    · rintro ⟨pre, hpre, hn⟩
      cases pre with
      | nil => simp at hn
      | cons d pre =>
        obtain ⟨rfl, htail⟩ := List.cons_prefix_cons.mp hpre
        rw [byteLength_cons] at hn
        exact ⟨by omega, pre, htail, by omega⟩

@[simp] theorem isBoundary_zero (cs : List Char) : isBoundary 0 cs = true := by
  simp [isBoundary]

@[simp] theorem isBoundary_byteLength (cs : List Char) : isBoundary (byteLength cs) cs = true :=
  isBoundary_iff.mpr ⟨cs, List.prefix_rfl, rfl⟩

/-- No boundary lies behind the end. -/
theorem le_byteLength_of_isBoundary (h : isBoundary n cs = true) : n ≤ byteLength cs := by
  obtain ⟨pre, ⟨rest, rfl⟩, rfl⟩ := isBoundary_iff.mp h
  rw [byteLength_append]
  omega

/-- A boundary of a beginning is one of the whole text. -/
theorem isBoundary_append_left (h : isBoundary n front = true) (back : List Char) :
    isBoundary n (front ++ back) = true := by
  obtain ⟨pre, hpre, hn⟩ := isBoundary_iff.mp h
  exact isBoundary_iff.mpr ⟨pre, hpre.trans (List.prefix_append front back), hn⟩

/-- A boundary of a rest is one of the whole text, as much farther as the
beginning is long. -/
theorem isBoundary_append_right (h : isBoundary n back = true) (front : List Char) :
    isBoundary (byteLength front + n) (front ++ back) = true := by
  obtain ⟨pre, hpre, rfl⟩ := isBoundary_iff.mp h
  exact isBoundary_iff.mpr
    ⟨front ++ pre, (List.prefix_append_right_inj front).mpr hpre, byteLength_append front pre⟩

/-- **Of two beginnings the shorter in bytes begins the other.** -/
theorem prefix_of_byteLength_le (hpre : pre <+: cs) (hfront : front <+: cs)
    (h : byteLength pre ≤ byteLength front) : pre <+: front := by
  rcases List.prefix_or_prefix_of_prefix hpre hfront with hp | ⟨rest, hrest⟩
  · exact hp
  · have hlen : byteLength front + byteLength rest = byteLength pre := by
      rw [← byteLength_append, hrest]
    have hnil : rest = [] := eq_nil_of_byteLength_eq_zero (by omega)
    have heq : front = pre := by rw [← hrest, hnil, List.append_nil]
    exact heq ▸ List.prefix_rfl

/-- A boundary at or behind the end of a beginning cuts the rest. -/
theorem exists_split_of_isBoundary (h : isBoundary n (pre ++ cs) = true)
    (hle : byteLength pre ≤ n) :
    ∃ front back, cs = front ++ back ∧ n = byteLength pre + byteLength front := by
  obtain ⟨whole, hwhole, rfl⟩ := isBoundary_iff.mp h
  obtain ⟨front, rfl⟩ := prefix_of_byteLength_le (List.prefix_append pre cs) hwhole hle
  obtain ⟨back, rfl⟩ := (List.prefix_append_right_inj pre).mp hwhole
  exact ⟨front, back, rfl, byteLength_append pre front⟩

/-- A boundary within a beginning is one of it. -/
theorem isBoundary_of_append (h : isBoundary n (front ++ back) = true)
    (hle : n ≤ byteLength front) : isBoundary n front = true := by
  obtain ⟨pre, hpre, rfl⟩ := isBoundary_iff.mp h
  exact isBoundary_iff.mpr
    ⟨pre, prefix_of_byteLength_le hpre (List.prefix_append front back) hle, rfl⟩

/-- What is left of a boundary in a beginning is one of it. -/
theorem isBoundary_min (h : isBoundary n (front ++ back) = true) :
    isBoundary (min n (byteLength front)) front = true := by
  by_cases hle : n ≤ byteLength front
  · rw [Nat.min_eq_left hle]
    exact isBoundary_of_append h hle
  · rw [Nat.min_eq_right (by omega)]
    exact isBoundary_byteLength front

/-- A boundary behind a beginning is one of the rest. -/
theorem isBoundary_of_append_right (h : isBoundary (byteLength pre + n) (pre ++ cs) = true) :
    isBoundary n cs = true := by
  obtain ⟨front, back, rfl, hn⟩ := exists_split_of_isBoundary h (Nat.le_add_right _ _)
  obtain rfl := Nat.add_left_cancel hn
  exact isBoundary_append_left (isBoundary_byteLength front) back

/-! ## Cutting -/

/-- **A text is cut at a boundary** into the beginning and the rest. -/
theorem splitBytes_append (front back : List Char) :
    splitBytes (byteLength front) (front ++ back) = (front, back) := by
  induction front with
  | nil =>
    cases back with
    | nil => rfl
    | cons c back =>
      have := c.utf8Size_pos
      simp only [List.nil_append, byteLength_nil, splitBytes]
      rw [if_neg (by omega)]
  | cons c front ih =>
    simp only [List.cons_append, splitBytes, byteLength_cons]
    rw [if_pos (by omega), Nat.add_sub_cancel_left, ih]

/-- **The text between two boundaries.** -/
theorem slice_append (pre front back : List Char) :
    slice (byteLength pre) (byteLength pre + byteLength front) (pre ++ front ++ back) = front := by
  rw [slice, List.append_assoc, splitBytes_append, Nat.add_sub_cancel_left, splitBytes_append]

/-- There is nothing between an offset and itself. -/
@[simp] theorem slice_self (n : Nat) (cs : List Char) : slice n n cs = [] := by
  rw [slice, Nat.sub_self]
  rcases (splitBytes n cs).2 with _ | ⟨c, rest⟩
  · rfl
  · have := c.utf8Size_pos
    rw [splitBytes, if_neg (by omega)]

/-- All of a text is between its start and its end. -/
theorem slice_zero_byteLength (cs : List Char) : slice 0 (byteLength cs) cs = cs := by
  simpa using slice_append [] cs []

/-- **Two slices side by side are one.** -/
theorem slice_append_slice {first mid last : Nat} (hfirst : isBoundary first cs = true)
    (hmid : isBoundary mid cs = true) (hlast : isBoundary last cs = true) (hle : first ≤ mid)
    (hle' : mid ≤ last) :
    slice first mid cs ++ slice mid last cs = slice first last cs := by
  obtain ⟨pre, ⟨rest, rfl⟩, rfl⟩ := isBoundary_iff.mp hfirst
  obtain ⟨front, rest, rfl, rfl⟩ := exists_split_of_isBoundary hmid hle
  rw [← List.append_assoc] at hlast
  rw [← byteLength_append] at hle'
  obtain ⟨back, rest, rfl, rfl⟩ := exists_split_of_isBoundary hlast hle'
  have hfront := slice_append pre front (back ++ rest)
  have hback := slice_append (pre ++ front) back rest
  have hboth := slice_append pre (front ++ back) rest
  simp only [byteLength_append, List.append_assoc, Nat.add_assoc] at hfront hback hboth ⊢
  rw [hfront, hback, hboth]

end Text

end LogSift
