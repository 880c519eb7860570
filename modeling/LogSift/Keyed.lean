/-!
# Values under names

A `Keyed` collection holds at most one value under each name, in the order of the names. The
laws of `find?` after `insert` do not need the order; it shows only where the collection is
listed.
-/

namespace LogSift

/-- Values under names, in the order of the names. -/
structure Keyed (α : Type) where
  /-- The names with their values. -/
  entries : List (String × α)
deriving DecidableEq, Repr

namespace Keyed

variable {α : Type}

instance : Inhabited (Keyed α) := ⟨⟨[]⟩⟩

/-- Nothing. -/
def empty : Keyed α := ⟨[]⟩

/-- The value under a name. -/
def find? (k : Keyed α) (name : String) : Option α :=
  (k.entries.find? (·.1 = name)).map (·.2)

/-- Is there a value under the name? -/
def has (k : Keyed α) (name : String) : Bool := (k.find? name).isSome

/-- A value put into a list at the place of its name. -/
def insertEntry (name : String) (value : α) : List (String × α) → List (String × α)
  | [] => [(name, value)]
  | (n, v) :: rest =>
    if name = n then (name, value) :: rest
    else if name < n then (name, value) :: (n, v) :: rest
    else (n, v) :: insertEntry name value rest

/-- The collection with a value put under a name, in place of one that is there. -/
def insert (k : Keyed α) (name : String) (value : α) : Keyed α :=
  ⟨insertEntry name value k.entries⟩

/-- The collection with several values put in, one after the other. -/
def insertAll (k : Keyed α) (pairs : List (String × α)) : Keyed α :=
  pairs.foldl (fun acc p => acc.insert p.1 p.2) k

/-- The collection of some pairs, the later ones winning. -/
def ofList (pairs : List (String × α)) : Keyed α := empty.insertAll pairs

/-- The names. -/
def names (k : Keyed α) : List String := k.entries.map (·.1)

/-- Is the collection empty? -/
def isEmpty (k : Keyed α) : Bool := k.entries.isEmpty

end Keyed

end LogSift
