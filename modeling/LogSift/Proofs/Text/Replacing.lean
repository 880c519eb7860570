import LogSift.Settings
/-!
# Replacing a text

A text is split around the first place where another stands
(`splitsAt_of_splitAt?`). So all its occurrences are replaced from left to
right, each as the first one behind the last (`Replaced`), and the replaced
text is not looked at again (`substitute_replaced`).
-/


namespace LogSift

namespace Text

variable {old new mark cs front left : List Char}

theorem after?_eq_some_iff : after? mark cs = some left ↔ cs = mark ++ left := by
  induction mark generalizing cs with
  | nil => simp [after?, eq_comm]
  | cons p ps ih =>
    cases cs with
    | nil => simp [after?]
    | cons c cs =>
      rw [after?, List.cons_append, List.cons.injEq]
      split
      · rename_i hsame
        rw [ih, and_iff_right hsame.symm]
      · rename_i hne
        simp [Ne.symm hne]

/-- **The text is split around the first place** where the mark stands. -/
structure SplitsAt (mark cs front left : List Char) : Prop where
  eq : cs = front ++ mark ++ left
  first : ∀ before behind, cs = before ++ mark ++ behind → front.length ≤ before.length

theorem splitsAt_of_splitAt? (h : splitAt? mark cs = some (front, left)) :
    SplitsAt mark cs front left := by
  induction cs generalizing front with
  | nil =>
    rw [splitAt?] at h
    split at h
    · rename_i hmark
      cases h
      exact ⟨by simpa using hmark, fun _ _ _ => Nat.zero_le _⟩
    · cases h
  | cons c rest ih =>
    rw [splitAt?] at h
    split at h
    · rename_i hafter
      cases h
      exact ⟨after?_eq_some_iff.mp hafter, fun _ _ _ => Nat.zero_le _⟩
    · rename_i hafter
      obtain ⟨⟨front', left'⟩, hrest, heq⟩ := Option.map_eq_some_iff.mp h
      cases heq
      obtain ⟨hsplit, hfirst⟩ := ih hrest
      refine ⟨by rw [hsplit]; rfl, fun before behind hbefore => ?_⟩
      cases before with
      | nil => exact absurd (after?_eq_some_iff.mpr hbefore) (by simp [hafter])
      | cons b before => exact Nat.succ_le_succ (hfirst before behind (List.cons.inj hbefore).2)

theorem not_infix_of_splitAt? (h : splitAt? mark cs = none) : ¬ mark <:+: cs := by
  rintro ⟨before, behind, hcs⟩
  induction cs generalizing before with
  | nil =>
    have hmark : mark = [] := by simp_all
    simp [splitAt?, hmark] at h
  | cons c rest ih =>
    rw [splitAt?] at h
    split at h
    · cases h
    · rename_i hafter
      cases before with
      | nil => exact absurd (after?_eq_some_iff.mpr hcs.symm) (by simp [hafter])
      | cons b before =>
        exact ih (by simpa using h) before (List.cons.inj hcs).2

/-- **A text holds another** iff that stands somewhere in it. -/
theorem holds_iff_infix : holds mark cs = true ↔ mark <:+: cs := by
  rw [holds]
  constructor
  · intro h
    obtain ⟨⟨front, left⟩, hsplit⟩ := Option.isSome_iff_exists.mp h
    exact ⟨front, left, (splitsAt_of_splitAt? hsplit).eq.symm⟩
  · intro h
    rw [Option.isSome_iff_ne_none]
    exact fun hnone => not_infix_of_splitAt? hnone h

/-- **All occurrences of a text are replaced**, from left to right. An empty text occurs before
every character and at the end. -/
inductive Replaced (old new : List Char) : List Char → List Char → Prop
  | empty (cs : List Char) : old = [] → Replaced old new cs (new ++ cs.flatMap fun c => c :: new)
  | rest {cs : List Char} : old ≠ [] → ¬ old <:+: cs → Replaced old new cs cs
  | next {cs front left left' : List Char} : old ≠ [] → SplitsAt old cs front left →
      Replaced old new left left' → Replaced old new cs (front ++ new ++ left')

/-- A number of places that is larger than the length is no limit. -/
theorem replaceAll_replaced (hold : old ≠ []) {n : Nat} (hn : cs.length < n) :
    Replaced old new cs (replaceAll old new n cs) := by
  induction n generalizing cs with
  | zero => cases hn
  | succ n ih =>
    rw [replaceAll]
    split
    · rename_i hnone
      exact .rest hold (not_infix_of_splitAt? hnone)
    · rename_i front left hsome
      have hsplit := splitsAt_of_splitAt? hsome
      refine .next hold hsplit (ih ?_)
      -- what is left is shorter by what is replaced
      have hlength := congrArg List.length hsplit.eq
      have hpos := List.length_pos_iff.mpr hold
      simp only [List.length_append] at hlength
      omega

theorem substitute_replaced (old new cs : List Char) :
    Replaced old new cs (Settings.substitute old new cs) := by
  rw [Settings.substitute]
  split
  · rename_i hold
    exact .empty cs (List.isEmpty_iff.mp hold)
  · rename_i hold
    exact replaceAll_replaced (by simpa using hold) (Nat.lt_succ_self _)

end Text

end LogSift
