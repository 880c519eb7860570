/-!
# Finding a text in a text

Plain search, on lists of characters.
-/

namespace LogSift.Text

/-- The text after a beginning, if it begins so. -/
def after? : List Char → List Char → Option (List Char)
  | [], cs => some cs
  | _ :: _, [] => none
  | p :: ps, c :: cs => if p = c then after? ps cs else none

/-- A text split around the first place where another stands. -/
def splitAt? (mark : List Char) : List Char → Option (List Char × List Char)
  | [] => if mark.isEmpty then some ([], []) else none
  | c :: rest =>
    match after? mark (c :: rest) with
    | some left => some ([], left)
    | none => (splitAt? mark rest).map fun (front, left) => (c :: front, left)

/-- Does a text hold another? -/
def holds (mark cs : List Char) : Bool := (splitAt? mark cs).isSome

/-- The parts of a text between the places of a character. -/
def parts (mark : Char) (cs : List Char) : List (List Char) :=
  cs.foldr
    (fun c acc =>
      if c = mark then [] :: acc
      else match acc with
        | part :: more => (c :: part) :: more
        | [] => [[c]])
    [[]]

/-- All places of a text replaced, from left to right; the text to replace is not empty. -/
def replaceAll (old new : List Char) : Nat → List Char → List Char
  | 0, cs => cs
  | n + 1, cs =>
    match splitAt? old cs with
    | none => cs
    | some (front, left) => front ++ new ++ replaceAll old new n left

end LogSift.Text
