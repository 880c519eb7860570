/-!
# Places in a text

A place is an offset in bytes of the UTF-8 form. Only the offsets between characters are
places a text can be cut at: `isBoundary`. Cutting at another offset cuts before the character
it lies in.
-/

namespace LogSift.Text

/-- The length in bytes. -/
def byteLength (cs : List Char) : Nat := cs.foldl (fun n c => n + c.utf8Size) 0

/-- Cuts a text at an offset. -/
def splitBytes : Nat → List Char → List Char × List Char
  | _, [] => ([], [])
  | n, c :: rest =>
    if c.utf8Size ≤ n then
      let (front, back) := splitBytes (n - c.utf8Size) rest
      (c :: front, back)
    else ([], c :: rest)

/-- The text between two offsets. -/
def slice (start stop : Nat) (cs : List Char) : List Char :=
  (splitBytes (stop - start) (splitBytes start cs).2).1

/-- Is the offset one between characters? -/
def isBoundary : Nat → List Char → Bool
  | 0, _ => true
  | _ + 1, [] => false
  | n + 1, c :: rest => c.utf8Size ≤ n + 1 && isBoundary (n + 1 - c.utf8Size) rest

end LogSift.Text
