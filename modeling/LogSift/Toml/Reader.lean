import LogSift.Toml.Number

/-!
# Reading TOML

A document is read into statements, one to a line: a value for a key, or a header. The keys of a
statement are given as a path and the last one.
-/

namespace LogSift.Toml

/-- One line of a document. -/
inductive Statement
  | assign (path : List String) (key : String) (value : Node)
  | header (path : List String) (key : String)
  | arrayHeader (path : List String) (key : String)

/-! ## Space -/

/-- A text without blanks at the front. -/
def dropBlanks (cs : List Char) : List Char := cs.dropWhile fun c => c = ' ' || c = '\t'

/-- A text without the comment at the front. -/
def dropComment (cs : List Char) : List Char :=
  if cs.head? = some '#' then cs.dropWhile isPlain else cs

/-- What follows the end of a line, of which only a comment is left. -/
def endLine? (cs : List Char) : Option (List Char) :=
  match dropComment (dropBlanks cs) with
  | [] => some []
  | cs => newline? cs

/-- A text without blanks, comments and ends of lines at the front. -/
def dropLines : Nat → List Char → List Char
  | 0, cs => cs
  | n + 1, cs =>
    match newline? (dropComment (dropBlanks cs)) with
    | some rest => dropLines n rest
    | none => dropBlanks cs

/-! ## Keys -/

/-- May the character stand in a key without quotes? -/
def isBare (c : Char) : Bool := c.isAlphanum || c = '_' || c = '-'

/-- The key at the front. -/
def simpleKey? (cs : List Char) : Option (String × List Char) :=
  match lineText? cs with
  | some (body, left) => some (String.ofList body, left)
  | none =>
    let bare := cs.takeWhile isBare
    if bare.isEmpty then none else some (String.ofList bare, cs.dropWhile isBare)

/-- The keys with dots between them at the front, however many. -/
def dotted? : Nat → List Char → Option (List String × String × List Char)
  | 0, _ => none
  | n + 1, cs => do
    let (key, left) ← simpleKey? (dropBlanks cs)
    match dropBlanks left with
    | '.' :: left => do
      let (path, last, left) ← dotted? n left
      return (key :: path, last, left)
    | left => return ([], key, left)

/-- There are less than so many keys with dots between them, and less than so many brackets and
braces within one another. -/
def nestingLimit : Nat := 80

/-- The keys with dots between them at the front. -/
def keys? (cs : List Char) : Option (List String × String × List Char) := do
  let (path, last, left) ← dotted? (cs.length + 1) cs
  if nestingLimit ≤ path.length + 1 then none else some (path, last, left)

/-! ## Values -/

mutual

/-- The value at the front. -/
def value? (depth : Nat) : Nat → List Char → Option (Node × List Char)
  | 0, _ => none
  | n + 1, cs =>
    match cs with
    | 't' :: 'r' :: 'u' :: 'e' :: left => some (.boolean true, left)
    | 'f' :: 'a' :: 'l' :: 's' :: 'e' :: left => some (.boolean false, left)
    | '[' :: rest =>
      if nestingLimit ≤ depth + 1 then none
      else (items? (depth + 1) n rest).map fun (items, left) => (.array items, left)
    | '\x7b' :: rest =>
      if nestingLimit ≤ depth + 1 then none
      else match dropBlanks rest with
        | '\x7d' :: left => some (.table .inlined [], left)
        | rest => (members? (depth + 1) n [] rest).map fun (es, left) => (.table .inlined es, left)
    | cs =>
      match text? cs with
      | some (body, left) => some (.text (String.ofList body), left)
      | none => number? cs

/-- The rest of an array. -/
def items? (depth : Nat) : Nat → List Char → Option (List Node × List Char)
  | 0, _ => none
  | n + 1, cs =>
    match dropLines cs.length cs with
    | ']' :: left => some ([], left)
    | cs => do
      let (item, left) ← value? depth n cs
      match dropLines left.length left with
      | ',' :: left => do
        let (items, left) ← items? depth n left
        return (item :: items, left)
      | ']' :: left => return ([item], left)
      | _ => none

/-- The rest of a table in braces, after some entries. -/
def members? (depth : Nat) : Nat → Entries → List Char → Option (Entries × List Char)
  | 0, _, _ => none
  | n + 1, es, cs => do
    let (path, key, left) ← keys? cs
    match left with
    | '=' :: left => do
      let (node, left) ← value? depth n (dropBlanks left)
      let es ← es.assign path key node .inlined
      match dropBlanks left with
      | ',' :: left => members? depth n es left
      | '\x7d' :: left => return (es, left)
      | _ => none
    | _ => none

end

/-! ## Statements -/

/-- A header up to its closing brackets. -/
def header? (closing : List Char) (cs : List Char) :
    Option (List String × String × List Char) := do
  let (path, key, left) ← keys? cs
  return (path, key, ← Text.after? closing left)

/-- The statement at the front. -/
def statement? : List Char → Option (Statement × List Char)
  | '[' :: '[' :: rest =>
    (header? "]]".toList rest).map fun (path, key, left) => (.arrayHeader path key, left)
  | '[' :: rest => (header? "]".toList rest).map fun (path, key, left) => (.header path key, left)
  | cs => do
    let (path, key, left) ← keys? cs
    match left with
    | '=' :: left =>
      let (node, left) ← value? 0 (2 * left.length + 2) (dropBlanks left)
      return (.assign path key node, left)
    | _ => none

/-- The statements of a text. -/
def statements? : Nat → List Char → Option (List Statement)
  | 0, _ => none
  | n + 1, cs =>
    match dropBlanks cs with
    | [] => some []
    | cs =>
      match endLine? cs with
      | some left => statements? n left
      | none => do
        let (s, left) ← statement? cs
        return s :: (← statements? n (← endLine? left))

end LogSift.Toml
