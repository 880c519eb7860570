import LogSift.Text.Decimal
/-!
# Numbers with commas

Digits are cut into groups of three from their end, so that the first group
may be shorter (`exists_threes`), and the groups are put together with commas
between them (`groupDigits_threes`). So the digits of a number are read off its
text with commas, which parts them into such groups, and no other text does
(`grouped_reads_back`).
-/


namespace LogSift

namespace Text

variable {cs ds first : List Char} {more groups : List (List Char)}

/-- **Groups of digits**: one to three in the first, and three in each of the
others. -/
structure Threes (first : List Char) (more : List (List Char)) : Prop where
  pos : 1 ≤ first.length
  le : first.length ≤ 3
  more : ∀ group ∈ more, group.length = 3

/-- Digits can be cut into such groups. -/
theorem exists_threes (h : ds ≠ []) : ∃ first more, ds = first ++ more.flatten ∧
    Threes first more := by
  induction ds with
  | nil => exact absurd rfl h
  | cons c rest ih =>
    by_cases hrest : rest = []
    · exact ⟨[c], [], by simp [hrest], by simp, by simp, by simp⟩
    · obtain ⟨first, more, rfl, hpos, hle, hmore⟩ := ih hrest
      by_cases hfull : first.length = 3
      · exact ⟨[c], first :: more, by simp, by simp, by simp,
          List.forall_mem_cons.mpr ⟨hfull, hmore⟩⟩
      · refine ⟨c :: first, more, rfl, ?_, ?_, hmore⟩
        all_goals
          rw [List.length_cons]
          omega

theorem length_flatten_threes (h : ∀ group ∈ more, group.length = 3) :
    more.flatten.length = 3 * more.length := by
  induction more with
  | nil => rfl
  | cons group more ih =>
    obtain ⟨hgroup, hmore⟩ := List.forall_mem_cons.mp h
    rw [List.flatten_cons, List.length_append, ih hmore, hgroup, List.length_cons]
    omega

/-! ## Putting groups together -/

/-- Within three digits there is no comma, -/
theorem groupDigits_of_length_le (h : first.length ≤ 3) : groupDigits first = first := by
  induction first with
  | nil => rfl
  | cons c rest ih =>
    rw [List.length_cons] at h
    rw [groupDigits, ih (by omega)]
    cases rest with
    | nil => rfl
    | cons d rest =>
      rw [List.length_cons] at h ⊢
      rw [if_neg (by simp; omega)]

/-- and there is one behind them if whole groups follow. -/
theorem groupDigits_append (hpos : 1 ≤ first.length) (hle : first.length ≤ 3) (hne : ds ≠ [])
    (hds : ds.length % 3 = 0) : groupDigits (first ++ ds) = first ++ ',' :: groupDigits ds := by
  induction first with
  | nil => cases hpos
  | cons c rest ih =>
    rw [List.cons_append, groupDigits]
    rw [List.length_cons] at hle
    by_cases hrest : rest = []
    · subst hrest
      simp [hne, hds]
    · have hlength := List.length_pos_iff.mpr hrest
      rw [ih hlength (by omega), if_neg (by simp; omega)]
      rfl

/-- **Groups are put together with commas between them.** -/
theorem groupDigits_threes (h : Threes first more) :
    groupDigits (first ++ more.flatten) = [','].intercalate (first :: more) := by
  induction more generalizing first with
  | nil => simpa using groupDigits_of_length_le h.le
  | cons group more ih =>
    obtain ⟨hgroup, hmore⟩ := List.forall_mem_cons.mp h.more
    have hlength := length_flatten_threes h.more
    have hne : (group :: more).flatten ≠ [] := by
      rw [← List.length_pos_iff, hlength, List.length_cons]
      omega
    rw [groupDigits_append h.pos h.le hne (by omega), List.flatten_cons,
      ih ⟨by omega, by omega, hmore⟩, List.intercalate_cons_cons, List.append_assoc]
    rfl

/-! ## Taking them apart -/

/-- Without the commas there are the digits of the groups. -/
theorem filter_intercalate (h : ∀ group ∈ groups, ',' ∉ group) :
    ([','].intercalate groups).filter (· ≠ ',') = groups.flatten := by
  induction groups with
  | nil => rfl
  | cons group more ih =>
    obtain ⟨hgroup, hmore⟩ := List.forall_mem_cons.mp h
    have hkept : group.filter (· ≠ ',') = group :=
      List.filter_eq_self.mpr fun c hc => by
        rw [decide_eq_true_iff]
        rintro rfl
        exact hgroup hc
    rcases more with _ | ⟨second, more⟩
    · simpa using hkept
    · rw [List.intercalate_cons_cons, List.filter_append, List.filter_append, ih hmore, hkept,
        List.filter_cons_of_neg (by decide), List.filter_nil, List.append_nil]
      exact List.flatten_cons.symm

theorem notMem_of_mem_splitOn (cs : List Char) : ∀ group ∈ cs.splitOn ',', ',' ∉ group := by
  induction cs with
  | nil => simp
  | cons c cs ih =>
    rw [List.splitOn_eq_splitOnP, List.splitOnP_cons_eq_if_modifyHead, ← List.splitOn_eq_splitOnP]
    split
    · exact List.forall_mem_cons.mpr ⟨List.not_mem_nil, ih⟩
    · rename_i hc
      obtain ⟨first, more, hsplit⟩ := List.exists_cons_of_ne_nil (List.splitOn_ne_nil ',' cs)
      rw [hsplit] at ih ⊢
      obtain ⟨hfirst, hmore⟩ := List.forall_mem_cons.mp ih
      refine List.forall_mem_cons.mpr ⟨fun hmem => ?_, hmore⟩
      rcases List.mem_cons.mp hmem with rfl | hmem
      · exact hc rfl
      · exact hfirst hmem

/-- **A text has these digits, in groups** that its commas part. -/
structure InThrees (ds cs : List Char) : Prop where
  digits : cs.filter (· ≠ ',') = ds
  groups : ∃ first more, cs.splitOn ',' = first :: more ∧ Threes first more

/-- **There is one such text.** -/
theorem inThrees_iff (hne : ds ≠ []) (hplain : ',' ∉ ds) :
    InThrees ds cs ↔ cs = groupDigits ds := by
  constructor
  · rintro ⟨rfl, first, more, hsplit, hthrees⟩
    have hgroups := notMem_of_mem_splitOn cs
    have hcs : [','].intercalate (cs.splitOn ',') = cs := List.intercalate_splitOn ','
    rw [hsplit] at hgroups hcs
    rw [← hcs, filter_intercalate hgroups, List.flatten_cons, groupDigits_threes hthrees]
  · rintro rfl
    obtain ⟨first, more, rfl, hthrees⟩ := exists_threes hne
    have hgroups : ∀ group ∈ first :: more, ',' ∉ group := fun group hgroup hmem =>
      hplain (List.mem_flatten_of_mem (L := first :: more) hgroup hmem)
    rw [groupDigits_threes hthrees]
    exact ⟨filter_intercalate hgroups, first, more,
      List.splitOn_intercalate ',' hgroups (List.cons_ne_nil first more), hthrees⟩

/-! ## The ends -/

theorem head?_groupDigits (ds : List Char) : (groupDigits ds).head? = ds.head? := by
  cases ds with
  | nil => rfl
  | cons c rest =>
    rw [groupDigits]
    split <;> rfl

theorem getLast?_groupDigits (ds : List Char) : (groupDigits ds).getLast? = ds.getLast? := by
  induction ds with
  | nil => rfl
  | cons c rest ih =>
    rw [groupDigits]
    split
    · -- the comma is not the last character, because more digits follow
      rename_i hcond
      have hne : rest ≠ [] := by
        rintro rfl
        simp at hcond
      simp only [List.getLast?_cons, ih, List.getLast?_eq_some_getLast hne, Option.getD_some]
    · rw [List.getLast?_cons, List.getLast?_cons, ih]

/-- **Numbers with commas are read back.** Without the commas there are the decimal digits of the
number. The commas part them into groups of three, of which the first may be shorter, and none is
at either end. No other text has the digits in such groups. -/
theorem grouped_reads_back (n : Nat) :
    String.ofList ((grouped n).toList.filter (· ≠ ',')) = toString n ∧
      Nat.ofDigitChars 10 ((grouped n).toList.filter (· ≠ ',')) 0 = n ∧
      (∃ first more, (grouped n).toList.splitOn ',' = first :: more ∧
        (1 ≤ first.length ∧ first.length ≤ 3) ∧ ∀ group ∈ more, group.length = 3) ∧
      (grouped n).toList.head? ≠ some ',' ∧ (grouped n).toList.getLast? ≠ some ',' ∧
      ∀ t : String, InThrees (toString n).toList t.toList ↔ t = grouped n := by
  have hdigits : (toString n).toList = Nat.toDigits 10 n := String.toList_ofList
  have hplain : ',' ∉ Nat.toDigits 10 n := fun hmem =>
    absurd (Nat.isDigit_of_mem_toDigits (by decide) (by decide) hmem) (by decide)
  have hgrouped : (grouped n).toList = groupDigits (Nat.toDigits 10 n) := by
    rw [grouped, String.toList_ofList, hdigits]
  have hiff : ∀ t : String, InThrees (toString n).toList t.toList ↔ t = grouped n := fun t => by
    rw [hdigits, inThrees_iff Nat.toDigits_ne_nil hplain, ← hgrouped, String.toList_inj]
  obtain ⟨hfilter, first, more, hsplit, hpos, hle, hmore⟩ := (hiff (grouped n)).mpr rfl
  refine ⟨?_, ?_, ⟨first, more, hsplit, ⟨hpos, hle⟩, hmore⟩, ?_, ?_, hiff⟩
  · rw [hfilter, String.ofList_toList]
  · rw [hfilter, hdigits, Nat.ofDigitChars_toDigits (by decide) (by decide)]
  · rw [hgrouped, head?_groupDigits]
    exact fun hhead => hplain (List.mem_of_mem_head? hhead)
  · rw [hgrouped, getLast?_groupDigits]
    exact fun hlast => hplain (List.mem_of_mem_getLast? hlast)

end Text

end LogSift
