import LogSift.Text.Find

/-!
# Paths

A path is a text of names between slashes. A `Location` is where a path leads: the names from a
root down, the first being that of the root, which is empty for a path that starts with a slash.
-/

namespace LogSift

/-- A place in the file system: the names from a root down. -/
abbrev Location := List String

namespace Location

/-- Where paths that start with a slash begin. -/
def root : Location := [""]

/-- The text of a location. -/
def toText (l : Location) : String := if l = root then "/" else "/".intercalate l

/-- The directory that holds a location. The root of paths that start with a slash holds itself;
above another root nothing is known. -/
def parent (l : Location) : Location := if l = root then root else l.dropLast

/-- The location that a name leads to from here. -/
def enter (l : Location) (name : String) : Location :=
  if name = "" || name = "." then l else if name = ".." then l.parent else l ++ [name]

/-- The names that lead from one location to another below it. -/
def below? : Location → Location → Option (List String)
  | [], names => some names
  | _ :: _, [] => none
  | a :: l, b :: names => if a = b then below? l names else none

end Location

namespace Path

/-- The names of a path, with the empty ones. -/
def names (path : String) : List String := (Text.parts '/' path.toList).map String.ofList

/-- Where a path leads from a location. -/
def resolve (here : Location) (path : String) : Location :=
  (names path).foldl Location.enter (if path.toList.head? = some '/' then Location.root else here)

/-- A path with a name added. -/
def join (path name : String) : String :=
  if path.toList.getLast? = some '/' then path ++ name else path ++ "/" ++ name

/-- Does a path lead to where it starts, as `.` does? -/
def isHere (path : String) : Bool :=
  match names path with
  | first :: rest => first = "." && rest.all fun n => n = "" || n = "."
  | [] => false

/-- The names of a path that decide about its order among others. -/
def key (path : String) : List String :=
  (names path).zipIdx.filterMap fun (n, i) =>
    if n = "" then if i = 0 then some "/" else none
    else if n = "." && i ≠ 0 then none
    else some n

/-- Names without the ones at the end that lead nowhere. -/
def dropIdle (ns : List String) : List String :=
  (ns.reverse.dropWhile fun n => n = "" || n = ".").reverse

/-- The text of the directory that a path lies in. -/
def parentText (path : String) : String :=
  let ns := names path
  let (front, rest) := match ns with
    | "" :: rest => if ns.length = 1 then ("", []) else ("/", rest)
    | "." :: rest => (".", rest)
    | rest => ("", rest)
  match dropIdle rest with
  | [] => "."
  | rest =>
    let kept := "/".intercalate (dropIdle rest.dropLast)
    if front = "." then if kept = "" then "." else "./" ++ kept
    else if front = "" && kept = "" then "."
    else front ++ kept

end Path

end LogSift
