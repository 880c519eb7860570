import LogSift.Pattern.Node

/-!
# Branches that come to one

Branches are brought together where that changes no match. Branches of one character each are
one set, and so are branches that are larger sets. What all branches start with is taken out of
them, if each goes on after it. `Node.closed` does so for the branches of a whole group.
-/

namespace LogSift.Pattern.Node

/-- The branches of a node. -/
def branches : Node → List Node
  | alt a b => a.branches ++ b.branches
  | n => [n]

/-- Some branches as one node. -/
def ofBranches : List Node → Node
  | [] => empty
  | [n] => n
  | n :: rest => alt n (ofBranches rest)

/-- What follows one another in a node. -/
def parts : Node → List Node
  | empty => []
  | seq a b => a.parts ++ b.parts
  | n => [n]

/-- Some parts as one node. -/
def ofParts (parts : List Node) : Node := parts.foldr join empty

/-- The only character of a set of one. -/
def single? : Node → Option Nat
  | set ⟨[(lo, hi)]⟩ => if lo = hi then some lo else none
  | _ => none

/-- The parts of a node, with characters in a row as one part. -/
def units (n : Node) : List Node :=
  (n.parts.splitBy fun a b => a.single?.isSome && b.single?.isSome).map ofParts

/-- The set that branches come to, if they are all of one character or all larger sets. -/
def oneSet? (branches : List Node) : Option CharSet :=
  if branches.all (·.single?.isSome) || branches.all (·.single?.isNone) then
    (branches.mapM fun
      | set s => some s
      | _ => none).map CharSet.unions
  else none

/-- What two lists have in common at the front. -/
def commonFront (first second : List Node) : List Node :=
  ((first.zip second).takeWhile fun p => p.1 = p.2).map (·.1)

/-- The branches of a node brought together; `fuel` bounds how often something is taken out of
them. -/
def closedWith : Nat → Node → Node
  | 0, n => n
  | fuel + 1, n =>
    match n.branches with
    | [_] => n
    | bs =>
      match oneSet? bs with
      | some s => set s
      | none =>
        let lists := bs.map units
        let front := lists.foldl commonFront (lists.headD [])
        if front.isEmpty || lists.any (·.length < 2) then ofBranches bs
        else
          let rest := ofBranches (lists.map fun us => ofParts (us.drop front.length))
          ofParts (front ++ [closedWith fuel rest])

/-- The branches of a node brought together. -/
def closed (n : Node) : Node := closedWith n.size n

end LogSift.Pattern.Node
