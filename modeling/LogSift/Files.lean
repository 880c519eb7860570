import LogSift.Files.Path
import LogSift.Text.Utf8

/-!
# Files

`Files` is what is known of a file system: which directories there are, and what the files hold
or why they cannot be read. A directory is there if something lies in it, or if it is listed.
-/

namespace LogSift

/-- The kinds of faults that are told apart. -/
inductive FileFault.Kind
  | permissionDenied
  | notFound
  | other
deriving DecidableEq, Repr

/-- Why something cannot be done to a file. -/
structure FileFault where
  kind : FileFault.Kind
  /-- What the system says. -/
  text : String
deriving DecidableEq, Repr

/-- What is at a location. -/
inductive FileNode
  | directory
  /-- A file with its bytes, or why they cannot be read. -/
  | file (content : Except FileFault (List UInt8))

/-- Something in a file system. -/
structure FileEntry where
  location : Location
  /-- When it was created. -/
  created : Nat
  node : FileNode

/-- A file system. -/
structure Files where
  /-- The current directory. -/
  here : Location
  entries : List FileEntry

namespace Files

/-- Nothing. -/
def empty (here : Location) : Files := ⟨here, []⟩

/-- What is listed at a location. -/
def entry? (f : Files) (l : Location) : Option FileEntry := f.entries.find? (·.location = l)

/-- Is there a file? -/
def isFile (f : Files) (l : Location) : Bool :=
  match f.entry? l with
  | some ⟨_, _, .file _⟩ => true
  | _ => false

/-- Is there a directory? -/
def isDirectory (f : Files) (l : Location) : Bool :=
  l = f.here || l = Location.root ||
    (match f.entry? l with
      | some ⟨_, _, .directory⟩ => true
      | _ => false) ||
    f.entries.any fun e =>
      match l.below? e.location with
      | some (_ :: _) => l != []
      | _ => false

/-- Is there anything? -/
def isThere (f : Files) (l : Location) : Bool := f.isFile l || f.isDirectory l

/-- When something was created. -/
def created (f : Files) (l : Location) : Nat := ((f.entry? l).map (·.created)).getD 0

/-- The names in a directory. -/
def names (f : Files) (l : Location) : List String :=
  (f.entries.filterMap fun e => (l.below? e.location).bind (·.head?)).eraseDups

/-- What lies below a directory at any depth: the names that lead there. -/
def below (f : Files) (l : Location) : List (List String) :=
  (f.entries.flatMap fun e =>
    match l.below? e.location with
    | some ns => (List.range ns.length).map fun i => ns.take (i + 1)
    | none => []).eraseDups

/-- Nothing is there. -/
def notFound : FileFault := ⟨.notFound, "No such file or directory (os error 2)"⟩

/-- The bytes of a file. -/
def read (f : Files) (l : Location) : Except FileFault (List UInt8) :=
  match f.entry? l with
  | some ⟨_, _, .file content⟩ => content
  | _ =>
    if f.isDirectory l then .error ⟨.other, "Is a directory (os error 21)"⟩
    else .error notFound

/-- The most bytes that a name may have. -/
def nameLimit : Nat := 255

/-- The most bytes that a path may have. -/
def pathLimit : Nat := 4095

/-- A path or a name in it is too long. -/
def tooLong : FileFault := ⟨.other, "File name too long (os error 36)"⟩

/-- Where a path leads, if there is a directory at every step before the last. -/
def locate (f : Files) (path : String) : Except FileFault Location :=
  if path = "" then .error notFound
  else if pathLimit < path.utf8ByteSize then .error tooLong
  else
    (Path.names path).foldlM
      (fun l name =>
        if f.isDirectory l then
          if nameLimit < name.utf8ByteSize then .error tooLong else .ok (l.enter name)
        else if f.isFile l then .error ⟨.other, "Not a directory (os error 20)"⟩
        else .error notFound)
      (if path.toList.head? = some '/' then Location.root else f.here)

/-- Puts something at a location. What was there keeps its time, and a new entry is later than
all others. -/
def put (f : Files) (l : Location) (node : FileNode) : Files :=
  if f.entries.any (·.location = l) then
    { f with entries := f.entries.map fun e => if e.location = l then { e with node } else e }
  else
    let next := f.entries.foldl (fun n e => max n (e.created + 1)) 0
    { f with entries := f.entries ++ [⟨l, next, node⟩] }

/-- Writes a file. -/
def write (f : Files) (l : Location) (bytes : List UInt8) : Files := f.put l (.file (.ok bytes))

/-- Notes what is at a location, in place of what was known of it. -/
def note (f : Files) (e : FileEntry) : Files :=
  { f with entries := f.entries.filter (·.location ≠ e.location) ++ [e] }

/-- The text of a file. -/
def readText (f : Files) (l : Location) : Except FileFault String := do
  match Text.Utf8.strict? (← f.read l) with
  | some cs => return String.ofList cs
  | none => .error ⟨.other, "stream did not contain valid UTF-8"⟩

/-- Adds a text at the end of a file. -/
def append (f : Files) (l : Location) (text : String) : Files :=
  f.write l ((f.read l).toOption.getD [] ++ Text.Utf8.encode text)

end Files

end LogSift
