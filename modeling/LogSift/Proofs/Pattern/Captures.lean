import LogSift.Proofs.Pattern.Meaning
/-!
# A pattern keeps its groups

What a pattern means has the groups that are written in it, with their numbers
and names and in the same order, but for those in a part that is repeated no
times (`Expr.captures_meaning`). Branches that are brought together keep their
groups (`Node.captures_closed`): each group has a number of its own, and so
there is none in what several branches have in common.
-/


namespace LogSift

namespace Pattern

variable {node : Node} {nodes front : List Node} {lists : List (List Node)} {m m' : Mode}

/-! ## Groups that are written -/

namespace Expr

/-- The groups of a pattern, with their numbers and names. -/
def groups : Expr → List (Nat × Option String)
  | repeated e _ _ _ => e.groups
  | capture index name e => (index, name) :: e.groups
  | group _ e => e.groups
  | seq a b => a.groups ++ b.groups
  | alt a b => a.groups ++ b.groups
  | _ => []

/-- Its groups but for those in a part that is repeated no times. -/
def keptGroups : Expr → List (Nat × Option String)
  | repeated e _ most _ => if most = some 0 then [] else e.keptGroups
  | capture index name e => (index, name) :: e.keptGroups
  | group _ e => e.keptGroups
  | seq a b => a.keptGroups ++ b.keptGroups
  | alt a b => a.keptGroups ++ b.keptGroups
  | _ => []

theorem keptGroups_sublist (e : Expr) : e.keptGroups.Sublist e.groups := by
  induction e with
  | repeated e least most greedy ih =>
    rw [keptGroups, groups]
    split
    · exact List.nil_sublist _
    · exact ih
  | capture index name e ih => exact ih.cons_cons _
  | group change e ih => exact ih
  | seq a b iha ihb | alt a b iha ihb => exact iha.append ihb
  | _ => exact List.Sublist.refl _

/-- The names of the groups. -/
def names (e : Expr) : List String := e.groups.filterMap (·.2)

/-- The names of the groups but for those in a part that is repeated no times. -/
def keptNames (e : Expr) : List String := e.keptGroups.filterMap (·.2)

end Expr

/-! ## Groups of nodes -/

namespace Node

theorem captures_join (first second : Node) :
    (first.join second).captures = first.captures ++ second.captures := by
  rw [join]
  split
  · rename_i hempty
    rw [hempty]
    rfl
  · split
    · rename_i hempty
      rw [hempty]
      exact (List.append_nil _).symm
    · rfl

theorem captures_branches (node : Node) : node.branches.flatMap captures = node.captures := by
  induction node with
  | alt p q ihp ihq => rw [branches, List.flatMap_append, ihp, ihq, captures]
  | _ => simp [branches]

theorem captures_parts (node : Node) : node.parts.flatMap captures = node.captures := by
  induction node with
  | seq p q ihp ihq => rw [parts, List.flatMap_append, ihp, ihq, captures]
  | empty => rfl
  | _ => simp [parts]

theorem captures_ofBranches (nodes : List Node) :
    (ofBranches nodes).captures = nodes.flatMap captures := by
  fun_induction ofBranches nodes with
  | case1 => rfl
  | case2 node => simp
  | case3 node rest _ ih => rw [captures, ih, List.flatMap_cons]

theorem captures_ofParts (nodes : List Node) :
    (ofParts nodes).captures = nodes.flatMap captures := by
  induction nodes with
  | nil => rfl
  | cons node nodes ih =>
    rw [ofParts, List.foldr_cons, ← ofParts, captures_join, ih, List.flatMap_cons]

theorem captures_units (node : Node) : node.units.flatMap captures = node.captures := by
  rw [units, List.flatMap_map]
  simp only [captures_ofParts]
  rw [← List.flatMap_assoc, List.flatMap_id', List.flatten_splitBy, captures_parts]

/-- Sets have no groups. -/
theorem captures_oneSet {s : CharSet} (h : oneSet? nodes = some s) :
    nodes.flatMap captures = [] := by
  rw [oneSet?] at h
  split at h
  · obtain ⟨sets, hsets, -⟩ := Option.map_eq_some_iff.mp h
    rw [eq_map_set hsets, List.flatMap_map]
    exact List.flatMap_eq_nil_iff.mpr fun _ _ => rfl
  · cases h

/-- **What two branches have in common holds no group**: its number would be given twice. -/
theorem captures_front (hfront : ∀ ps ∈ lists, front <+: ps) (htwo : 2 ≤ lists.length)
    (hnodup : ((lists.flatMap (·.flatMap captures)).map (·.1)).Nodup) :
    front.flatMap captures = [] := by
  obtain ⟨first, second, rest, rfl⟩ : ∃ first second rest, lists = first :: second :: rest :=
    match lists, htwo with
    | first :: second :: rest, _ => ⟨first, second, rest, rfl⟩
  have hmem : ∀ g ∈ front.flatMap captures, ∀ ps ∈ first :: second :: rest,
      g ∈ ps.flatMap captures := fun g hg ps hps => by
    obtain ⟨tail, rfl⟩ := hfront ps hps
    rw [List.flatMap_append]
    exact List.mem_append_left _ hg
  refine List.eq_nil_iff_forall_not_mem.mpr fun g hg => ?_
  rw [List.flatMap_cons, List.map_append] at hnodup
  refine (List.nodup_append.mp hnodup).2.2 g.1 ?_ g.1 ?_ rfl
  · exact List.mem_map_of_mem (hmem g hg first List.mem_cons_self)
  · refine List.mem_map_of_mem (List.mem_flatMap_of_mem List.mem_cons_self ?_)
    exact hmem g hg second (List.mem_cons_of_mem _ List.mem_cons_self)

/-- What has no group may be taken out of all branches. -/
theorem captures_factored (hfront : ∀ ps ∈ lists, front <+: ps)
    (hnone : front.flatMap captures = []) :
    (ofBranches (lists.map fun ps => ofParts (ps.drop front.length))).captures =
      lists.flatMap (·.flatMap captures) := by
  rw [captures_ofBranches, List.flatMap_map]
  refine List.flatMap_congr fun ps hps => ?_
  obtain ⟨tail, rfl⟩ := hfront ps hps
  rw [List.drop_left, captures_ofParts, List.flatMap_append, hnone, List.nil_append]

theorem captures_closedWith (fuel : Nat) (hnodup : (node.captures.map (·.1)).Nodup) :
    (closedWith fuel node).captures = node.captures := by
  induction fuel generalizing node with
  | zero => rfl
  | succ fuel ih =>
    rw [closedWith]
    split
    · rfl
    · rename_i hone
      split
      · rename_i s hs
        rw [← captures_branches node, captures_oneSet hs]
        rfl
      · simp only
        split
        · rw [captures_ofBranches, captures_branches]
        · have hprefix := (isPrefix_foldl_commonFront ((node.branches.map units).headD [])
            (node.branches.map units)).2
          have hlists : (node.branches.map units).flatMap (·.flatMap captures) =
              node.captures := by
            simp only [List.flatMap_map, captures_units, captures_branches]
          have htwo : 2 ≤ (node.branches.map units).length := by
            rw [List.length_map]
            rcases hbranches : node.branches with _ | ⟨b, _ | ⟨b', bs⟩⟩
            · exact absurd hbranches node.branches_ne_nil
            · exact absurd hbranches (hone b)
            · simp
          -- what is taken out has no group, and so the rest has all of them, each once
          have hnone := captures_front hprefix htwo (hlists ▸ hnodup)
          have hrest := (captures_factored hprefix hnone).trans hlists
          rw [captures_ofParts, List.flatMap_append, hnone, List.nil_append,
            List.flatMap_singleton, ih (hrest ▸ hnodup), hrest]

/-- **Branches brought together keep their groups.** -/
theorem captures_closed (hnodup : (node.captures.map (·.1)).Nodup) :
    node.closed.captures = node.captures :=
  captures_closedWith node.size hnodup

/-- A repetition keeps its groups, unless it has no round. -/
theorem captures_repetition (node : Node) (least : Nat) (most : Option Nat) (greedy : Bool) :
    (node.repetition least most greedy).captures =
      if most = some 0 then [] else node.captures := by
  have hbounded : ∀ least most, (if most = some 0 then empty
      else if least = 1 && most = some 1 then node
      else repeated node least most greedy).captures =
      if most = some 0 then [] else node.captures := by
    intro least most
    split
    · rfl
    · split <;> rfl
  -- one round at most is none only where there was to be none
  have hcloser : some ((most.map (min · 1)).getD 1) = some 0 ↔ most = some 0 := by
    cases most <;> simp
  rw [repetition]
  by_cases honly : node.onlyEmpty
  · simp only [if_pos honly]
    rw [hbounded]
    simp only [hcloser]
  · simp only [if_neg honly]
    exact hbounded least most

end Node

/-! ## Meaning -/

theorem Mode.captures_atom {a : Atom} (h : m.atom a = .ok node) : node.captures = [] := by
  cases a with
  | assertion a =>
    obtain rfl := Except.ok.inj h
    rfl
  | _ =>
    obtain ⟨s, -, hs⟩ := bind_eq_ok_iff.mp h
    obtain rfl := Except.ok.inj hs
    rfl

/-- **What a pattern means has the groups that the pattern keeps**, if their numbers differ. -/
theorem Expr.captures_meaning {e : Expr} (hnodup : (e.keptGroups.map (·.1)).Nodup)
    (h : e.meaning m = .ok (node, m')) : node.captures = e.keptGroups := by
  induction e generalizing m node m' with
  | empty | flags change =>
    obtain ⟨rfl, rfl⟩ := Prod.mk.inj (Except.ok.inj h)
    rfl
  | atom a =>
    obtain ⟨unit, ha, hunit⟩ := bind_eq_ok_iff.mp h
    obtain ⟨rfl, rfl⟩ := Prod.mk.inj (Except.ok.inj hunit)
    exact Mode.captures_atom ha
  | bracket negated set =>
    obtain ⟨s, hs, h⟩ := bind_eq_ok_iff.mp h
    obtain ⟨t, ht, h⟩ := bind_eq_ok_iff.mp h
    obtain ⟨rfl, rfl⟩ := Prod.mk.inj (Except.ok.inj h)
    rfl
  | repeated e least most greedy ih =>
    obtain ⟨⟨inner, m''⟩, he, hinner⟩ := bind_eq_ok_iff.mp h
    obtain ⟨rfl, rfl⟩ := Prod.mk.inj (Except.ok.inj hinner)
    -- only a repetition without a round loses its groups, and then none of them is kept
    rw [keptGroups] at hnodup
    rw [Node.captures_repetition, keptGroups]
    split at hnodup
    · rw [if_pos ‹_›, if_pos ‹_›]
    · rw [if_neg ‹_›, if_neg ‹_›]
      exact ih hnodup he
  | capture index name e ih =>
    obtain ⟨⟨inner, m''⟩, he, hinner⟩ := bind_eq_ok_iff.mp h
    obtain ⟨rfl, rfl⟩ := Prod.mk.inj (Except.ok.inj hinner)
    rw [keptGroups, List.map_cons] at hnodup
    have hinner := ih (List.nodup_cons.mp hnodup).2 he
    rw [Node.captures, Node.captures_closed (hinner ▸ (List.nodup_cons.mp hnodup).2), hinner,
      keptGroups]
  | group change e ih =>
    obtain ⟨⟨inner, m''⟩, he, hinner⟩ := bind_eq_ok_iff.mp h
    obtain ⟨rfl, rfl⟩ := Prod.mk.inj (Except.ok.inj hinner)
    have hinner := ih hnodup he
    rw [Node.captures_closed (hinner ▸ hnodup), hinner, keptGroups]
  | seq a b iha ihb =>
    obtain ⟨⟨x, mid⟩, ha, h⟩ := bind_eq_ok_iff.mp h
    obtain ⟨⟨y, last⟩, hb, h⟩ := bind_eq_ok_iff.mp h
    obtain ⟨rfl, rfl⟩ := Prod.mk.inj (Except.ok.inj h)
    rw [keptGroups, List.map_append, List.nodup_append] at hnodup
    rw [Node.captures_join, iha hnodup.1 ha, ihb hnodup.2.1 hb, keptGroups]
  | alt a b iha ihb =>
    obtain ⟨⟨x, mid⟩, ha, h⟩ := bind_eq_ok_iff.mp h
    obtain ⟨⟨y, last⟩, hb, h⟩ := bind_eq_ok_iff.mp h
    obtain ⟨rfl, rfl⟩ := Prod.mk.inj (Except.ok.inj h)
    rw [keptGroups, List.map_append, List.nodup_append] at hnodup
    rw [Node.captures, iha hnodup.1 ha, ihb hnodup.2.1 hb, keptGroups]

end Pattern

end LogSift
