import LogSift.Toml.Reader

/-!
# TOML documents

The statements of a document build a table. A header opens a table, and the values that follow
belong to it up to the next header, at which it is put in its place.
-/

namespace LogSift.Toml

/-- A document while it is built. -/
structure Builder where
  /-- The tables that are closed. -/
  root : Entries
  /-- The values of the open table. -/
  current : Entries
  /-- Where the open table goes; the values before the first header go to the root. -/
  place : Option Statement

namespace Builder

/-- Before the first statement. -/
def initial : Builder := ⟨[], [], none⟩

/-- Puts a table under a key that is free. -/
def place? (table : Entries) (key : String) (es : Entries) : Option Entries :=
  if (es.value? key).isSome then none else some (es.set key (.table .header table))

/-- Adds a table to those under a key. -/
def append? (table : Entries) (key : String) (es : Entries) : Option Entries :=
  match es.value? key with
  | none => some (es.set key (.tables [table]))
  | some (.tables others) => some (es.set key (.tables (table :: others)))
  | some _ => none

/-- Closes the open table. -/
def close (b : Builder) : Option Entries :=
  match b.place with
  | some (.header path key) =>
    b.root.modify false (fun _ => place? b.current key) path .header
  | some (.arrayHeader path key) =>
    b.root.modify false (fun _ => append? b.current key) path .header
  | _ => some (b.root ++ b.current)

/-- The entries of a table that headers may still open. -/
def opened? : Option Node → Option Entries
  | none => some []
  | some (.table .implied inner) => some inner
  | some _ => none

/-- The entries of the table at the end of a path. -/
def find? (path : List String) (es : Entries) : Option Entries :=
  match path with
  | [] => some es
  | key :: path =>
    match es.value? key with
    | none => some []
    | some (.table .inlined _) => none
    | some (.table _ inner) => find? path inner
    | some (.tables (last :: _)) => find? path last
    | some _ => none

/-- Takes a statement. -/
def add (b : Builder) (s : Statement) : Option Builder :=
  match s with
  | .assign path key node => do
    return { b with current := ← b.current.assign path key node .header }
  | .header path key => do
    let root ← b.close
    let current ← opened? ((← find? path root).value? key)
    let root ← if current.isEmpty then some root
      else root.modify false (fun _ es => some (es.erase key)) path .header
    return ⟨root, current, some s⟩
  | .arrayHeader _ _ => do return ⟨← b.close, [], some s⟩

end Builder

/-- The table that a document stands for. -/
def read? (text : String) : Option Entries := do
  let cs := text.toList
  let cs := if cs.head? = some '\ufeff' then cs.tail else cs
  let b ← (← statements? (cs.length + 1) cs).foldlM Builder.add Builder.initial
  b.close

end LogSift.Toml
