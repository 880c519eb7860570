import Mathlib.Data.List.SplitBy
import LogSift.Pattern.Branches
import LogSift.Proofs.CharSet
import LogSift.Proofs.Pattern.Matches
/-!
# Branches brought together match the same

To bring the branches of a node together changes nothing in what the node
matches (`Node.matches_closed`): one set stands for branches that are sets,
as a union holds what any of them holds, and what all branches start with is
matched before them just as well as in each of them.
-/


namespace LogSift

namespace Pattern

namespace Node

variable {c d : Cursor} {bs ps qs : List Node} {node : Node}

/-! ## Branches and parts -/

theorem branches_ne_nil (node : Node) : node.branches ≠ [] := by
  induction node with
  | alt p q ihp _ => simp [branches, ihp]
  | _ => simp [branches]

/-- A node matches where one of its branches does. -/
theorem matches_branches (node : Node) :
    node.Matches c d ↔ ∃ b ∈ node.branches, b.Matches c d := by
  induction node with
  | alt p q ihp ihq =>
    simp only [branches, Matches, ihp, ihq, List.mem_append, or_and_right, exists_or]
  | _ => simp [branches]

theorem matches_ofBranches (h : bs ≠ []) :
    (ofBranches bs).Matches c d ↔ ∃ b ∈ bs, b.Matches c d := by
  fun_induction ofBranches bs with
  | case1 => exact absurd rfl h
  | case2 n => simp
  | case3 n rest hrest ih =>
    rw [Matches, ih (fun hnil => hrest hnil), List.exists_mem_cons_iff]

/-- Parts are matched one after the other. -/
theorem matches_ofParts_append :
    (ofParts (ps ++ qs)).Matches c d ↔
      ∃ e, (ofParts ps).Matches c e ∧ (ofParts qs).Matches e d := by
  induction ps generalizing c with
  | nil => simp [ofParts, Matches]
  | cons p ps ih =>
    have hcons : ∀ rest, ofParts (p :: rest) = p.join (ofParts rest) := fun _ => rfl
    rw [List.cons_append, hcons, hcons, matches_join]
    simp only [ih, matches_join]
    constructor
    · rintro ⟨e, hce, f, hef, hfd⟩
      exact ⟨f, ⟨e, hce, hef⟩, hfd⟩
    · rintro ⟨f, ⟨e, hce, hef⟩, hfd⟩
      exact ⟨e, hce, f, hef, hfd⟩

theorem matches_ofParts_singleton : (ofParts [node]).Matches c d ↔ node.Matches c d := by
  rw [ofParts, List.foldr_cons, List.foldr_nil, matches_join]
  simp [Matches]

theorem matches_ofParts_parts (node : Node) :
    (ofParts node.parts).Matches c d ↔ node.Matches c d := by
  induction node generalizing c d with
  | empty => rfl
  | seq p q ihp ihq => simp only [parts, matches_ofParts_append, ihp, ihq, Matches]
  | _ => exact matches_ofParts_singleton

/-- Parts may be put together first. -/
theorem matches_ofParts_flatten (groups : List (List Node)) :
    (ofParts (groups.map ofParts)).Matches c d ↔ (ofParts groups.flatten).Matches c d := by
  induction groups generalizing c with
  | nil => rfl
  | cons ps groups ih =>
    rw [List.map_cons, ← List.singleton_append, matches_ofParts_append, List.flatten_cons,
      matches_ofParts_append]
    simp only [ih, matches_ofParts_singleton]

theorem matches_units (node : Node) : (ofParts node.units).Matches c d ↔ node.Matches c d := by
  rw [units, matches_ofParts_flatten, List.flatten_splitBy, matches_ofParts_parts]

/-! ## Bringing together -/

/-- Branches that are sets, all of them. -/
theorem eq_map_set {sets : List CharSet}
    (h : (bs.mapM fun
      | set s => some s
      | _ => none) = some sets) : bs = sets.map set := by
  induction bs generalizing sets with
  | nil =>
    obtain rfl : [] = sets := Option.some.inj h
    rfl
  | cons b bs ih =>
    rw [List.mapM_cons] at h
    cases b with
    | set s =>
      simp only [Option.pure_def, Option.bind_eq_bind, Option.bind_some,
        Option.bind_eq_some_iff, Option.some.injEq] at h
      obtain ⟨rest, hrest, rfl⟩ := h
      rw [ih hrest, List.map_cons]
    | _ => cases h

/-- Branches that come to one set are sets, and it holds what they hold. -/
theorem matches_oneSet {s : CharSet} (h : oneSet? bs = some s) :
    (set s).Matches c d ↔ ∃ b ∈ bs, b.Matches c d := by
  rw [oneSet?] at h
  split at h
  · obtain ⟨sets, hsets, rfl⟩ := Option.map_eq_some_iff.mp h
    rw [eq_map_set hsets]
    simp only [Matches, CharSet.contains_unions, List.mem_map]
    constructor
    · rintro ⟨ch, hnext, s, hs, hch⟩
      exact ⟨set s, ⟨s, hs, rfl⟩, ch, hnext, hch⟩
    · rintro ⟨-, ⟨s, hs, rfl⟩, ch, hnext, hch⟩
      exact ⟨ch, hnext, s, hs, hch⟩
  · cases h

theorem isPrefix_commonFront (first second : List Node) :
    commonFront first second <+: first ∧ commonFront first second <+: second := by
  induction first generalizing second with
  | nil => simp [commonFront]
  | cons p first ih =>
    cases second with
    | nil => simp [commonFront]
    | cons q second =>
      obtain ⟨hfirst, hsecond⟩ := ih second
      by_cases hpq : p = q
      · subst hpq
        have hcons : commonFront (p :: first) (p :: second) = p :: commonFront first second := by
          simp [commonFront]
        rw [hcons]
        exact ⟨(List.prefix_cons_inj p).mpr hfirst, (List.prefix_cons_inj p).mpr hsecond⟩
      · have hnil : commonFront (p :: first) (q :: second) = [] := by simp [commonFront, hpq]
        rw [hnil]
        exact ⟨List.nil_prefix, List.nil_prefix⟩

/-- What lists have in common at the front is at the front of each. -/
theorem isPrefix_foldl_commonFront (front : List Node) (lists : List (List Node)) :
    lists.foldl commonFront front <+: front ∧
      ∀ ps ∈ lists, lists.foldl commonFront front <+: ps := by
  induction lists generalizing front with
  | nil => simp
  | cons ps lists ih =>
    obtain ⟨hfront, hlists⟩ := ih (commonFront front ps)
    obtain ⟨hleft, hright⟩ := isPrefix_commonFront front ps
    exact ⟨hfront.trans hleft, List.forall_mem_cons.mpr ⟨hfront.trans hright, hlists⟩⟩

/-- What all start with may be taken out of them. -/
theorem matches_factored {front : List Node} {lists : List (List Node)} (hne : lists ≠ [])
    (hfront : ∀ ps ∈ lists, front <+: ps) :
    (∃ e, (ofParts front).Matches c e ∧
        (ofBranches (lists.map fun ps => ofParts (ps.drop front.length))).Matches e d) ↔
      ∃ ps ∈ lists, (ofParts ps).Matches c d := by
  have hsplit : ∀ ps ∈ lists, ∀ c d, (ofParts ps).Matches c d ↔
      ∃ e, (ofParts front).Matches c e ∧ (ofParts (ps.drop front.length)).Matches e d := by
    intro ps hps c d
    obtain ⟨tail, rfl⟩ := hfront ps hps
    rw [List.drop_left, matches_ofParts_append]
  simp only [matches_ofBranches (mt List.map_eq_nil_iff.mp hne), List.mem_map]
  constructor
  · rintro ⟨e, hce, -, ⟨ps, hps, rfl⟩, hed⟩
    exact ⟨ps, hps, (hsplit ps hps c d).mpr ⟨e, hce, hed⟩⟩
  · rintro ⟨ps, hps, hcd⟩
    obtain ⟨e, hce, hed⟩ := (hsplit ps hps c d).mp hcd
    exact ⟨e, hce, _, ⟨ps, hps, rfl⟩, hed⟩

theorem matches_closedWith (fuel : Nat) (node : Node) :
    (closedWith fuel node).Matches c d ↔ node.Matches c d := by
  induction fuel generalizing node c d with
  | zero => rfl
  | succ fuel ih =>
    rw [closedWith]
    split
    · rfl
    · split
      · rename_i s hs
        rw [matches_oneSet hs, ← matches_branches]
      · simp only
        split
        · rw [matches_ofBranches node.branches_ne_nil, ← matches_branches]
        · have hfront := (isPrefix_foldl_commonFront ((node.branches.map units).headD [])
            (node.branches.map units)).2
          simp only [matches_ofParts_append, matches_ofParts_singleton, ih]
          rw [matches_factored (mt List.map_eq_nil_iff.mp node.branches_ne_nil) hfront,
            matches_branches]
          simp only [List.mem_map]
          constructor
          · rintro ⟨-, ⟨b, hb, rfl⟩, hcd⟩
            exact ⟨b, hb, (matches_units b).mp hcd⟩
          · rintro ⟨b, hb, hcd⟩
            exact ⟨_, ⟨b, hb, rfl⟩, (matches_units b).mpr hcd⟩

/-- **Branches brought together match what they matched before.** -/
theorem matches_closed (node : Node) : node.closed.Matches c d ↔ node.Matches c d :=
  matches_closedWith node.size node

end Node

end Pattern

end LogSift
