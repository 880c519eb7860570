import LogSift.Files

/-!
# Patterns for file names

In a pattern `?` stands for any character, `*` for any text, `[…]` for one of some characters and
`[!…]` for any other; a name `**` leads to everything below a directory. `Glob.read` reads a
pattern, and `Glob.files` finds the files it leads to, the oldest first. A file that can be
reached in several ways is found as often.
-/

namespace LogSift

namespace Glob

/-- Some characters. -/
inductive Range
  | single (c : Char)
  | between (first last : Char)
deriving DecidableEq, Repr

/-- Is a character among some? -/
def Range.contains (c : Char) : Range → Bool
  | single d => c = d
  | between first last => first ≤ c && c ≤ last

/-- A piece of a pattern. -/
inductive Token
  | char (c : Char)
  | anyChar
  | anyText
  | oneOf (ranges : List Range)
  | noneOf (ranges : List Range)
  /-- Everything below a directory. -/
  | deep
deriving DecidableEq, Repr

/-- What can be wrong in a pattern. -/
inductive Fault.Kind
  | wildcards
  | deepWildcard
  | range
deriving DecidableEq, Repr

/-- What is wrong in a pattern. -/
structure Fault where
  kind : Fault.Kind
  /-- The place, in characters. -/
  position : Nat
deriving DecidableEq, Repr

/-- The sentence for a fault. -/
def Fault.message (f : Fault) : String :=
  let what := match f.kind with
    | .wildcards => "wildcards are either regular `*` or recursive `**`"
    | .deepWildcard => "recursive wildcards must form a single path component"
    | .range => "invalid range pattern"
  s!"Pattern syntax error near position {f.position}: {what}"

/-- The ranges of a class. -/
def ranges : List Char → List Range
  | a :: '-' :: b :: rest => .between a b :: ranges rest
  | a :: rest => .single a :: ranges rest
  | [] => []

/-- The characters up to a closing bracket, and what follows it. The first one is taken whatever it
is. -/
def listed? : List Char → Option (List Char × List Char)
  | [] => none
  | c :: more =>
    match more.dropWhile (· ≠ ']') with
    | [] => none
    | _ :: left => some (c :: more.takeWhile (· ≠ ']'), left)

theorem length_lt_of_listed? {cs listed left : List Char} (h : listed? cs = some (listed, left)) :
    left.length < cs.length := by
  cases cs with
  | nil => simp [listed?] at h
  | cons c more =>
    have hle := (List.dropWhile_sublist (l := more) (p := fun x => decide (x ≠ ']'))).length_le
    simp only [listed?] at h
    split at h
    · simp at h
    · next hd =>
      simp only [Option.some.injEq, Prod.mk.injEq] at h
      rw [hd, h.2] at hle
      simp only [List.length_cons] at hle ⊢
      omega

/-- What follows the opening bracket of a class: its token and the rest. -/
def class? : List Char → Option (Token × List Char)
  | '!' :: body => (listed? body).map fun (cs, left) => (.noneOf (ranges cs), left)
  | body => (listed? body).map fun (cs, left) => (.oneOf (ranges cs), left)

theorem length_lt_of_class? {cs left : List Char} {token : Token}
    (h : class? cs = some (token, left)) : left.length < cs.length := by
  unfold class? at h
  split at h <;>
    · obtain ⟨⟨listed, rest⟩, hl, he⟩ := Option.map_eq_some_iff.1 h
      have hlt := length_lt_of_listed? hl
      simp only [Prod.mk.injEq] at he
      rw [← he.2]
      simp only [List.length_cons] at *
      omega

/-- The tokens of a pattern from a place on. `start` is whether a name starts here. -/
def tokensFrom (position : Nat) (start : Bool) : List Char → Except Fault (List Token)
  | [] => .ok []
  | '?' :: rest => do return .anyChar :: (← tokensFrom (position + 1) false rest)
  | '*' :: '*' :: '*' :: _ => .error ⟨.wildcards, position + 2⟩
  | '*' :: '*' :: rest =>
    if !start then .error ⟨.deepWildcard, position - 1⟩
    else
      match rest with
      | [] => .ok [.deep]
      | '/' :: rest => do return .deep :: (← tokensFrom (position + 3) true rest)
      | _ => .error ⟨.deepWildcard, position + 2⟩
  | '*' :: rest => do return .anyText :: (← tokensFrom (position + 1) false rest)
  | '[' :: rest =>
    match h : class? rest with
    | none => .error ⟨.range, position⟩
    | some (token, left) => do
      have := length_lt_of_class? h
      return token :: (← tokensFrom (position + 1 + (rest.length - left.length)) false left)
  | c :: rest => do return .char c :: (← tokensFrom (position + 1) (c = '/') rest)
termination_by cs => cs.length

/-- The tokens of a pattern. -/
def tokens (cs : List Char) : Except Fault (List Token) := tokensFrom 0 true cs

/-- One name of a pattern. -/
inductive Component
  /-- A name as it is. -/
  | name (text : String)
  /-- Any name that matches. -/
  | wild (tokens : List Token)
  /-- Everything below. -/
  | deep
deriving DecidableEq, Repr

/-- The text of tokens that are all characters. -/
def plainText? (ts : List Token) : Option (List Char) :=
  ts.mapM fun
    | .char c => some c
    | _ => none

/-- A name of a pattern. -/
def Component.ofText (cs : List Char) : Except Fault Component := do
  let ts ← tokens cs
  match plainText? ts with
  | some text => return .name (String.ofList text)
  | none => return if ts = [.deep] then .deep else .wild ts

/-- Does a token match a character? -/
def Token.accepts (c : Char) : Token → Bool
  | char d => c = d
  | anyChar => true
  | anyText => true
  | oneOf rs => rs.any (·.contains c)
  | noneOf rs => !rs.any (·.contains c)
  | deep => false

/-- For each end of a text, the whole text first, whether some tokens match it. -/
def matchRow (cs : List Char) : List Token → List Bool
  | [] => List.replicate cs.length false ++ [true]
  | .anyText :: ts => (matchRow cs ts).foldr (fun b row => (b || row.headD false) :: row) []
  | t :: ts => List.zipWith (fun c b => t.accepts c && b) cs (matchRow cs ts).tail ++ [false]

/-- Does a name match some tokens? -/
def matchesText (ts : List Token) (cs : List Char) : Bool := (matchRow cs ts).headD false

/-- Does a component match a name? -/
def Component.accepts (c : Component) (name : String) : Bool :=
  match c with
  | .name text => text = name
  | .wild ts => matchesText ts name.toList
  | .deep => false

end Glob

/-- A pattern for file names. -/
structure Glob where
  source : String
  /-- Does it start with a slash? -/
  absolute : Bool
  components : List Glob.Component
  /-- Does it end with a slash, and so lead to directories only? -/
  directories : Bool
deriving DecidableEq, Repr

namespace Glob

/-- The names of a pattern. -/
def namesOf (cs : List Char) : List (List Char) :=
  let ns := Text.parts '/' cs
  if ns.getLast? = some [] then ns.dropLast else ns

/-- Reads a pattern. -/
def read (source : String) : Except Fault Glob := do
  let cs := source.toList
  let _ ← tokens cs
  let absolute := cs.head? = some '/'
  let components ← (namesOf (if absolute then cs.tail else cs)).mapM Component.ofText
  return ⟨source, absolute, components, cs.getLast? = some '/'⟩

/-- A place on the way along a pattern: its path as it is shown, and where that leads. -/
structure Place where
  path : String
  location : Location
deriving DecidableEq, Repr

namespace Place

/-- The place of a name from here. The path does not show that it starts in the current
directory. -/
def enter (p : Place) (name : String) : Place :=
  ⟨if Path.isHere p.path then name else Path.join p.path name, p.location.enter name⟩

/-- The place of a special name from here, which the path does show. -/
def enterSpecial (p : Place) (name : String) : Place :=
  ⟨Path.join p.path name, p.location.enter name⟩

end Place

/-- Is the place there? -/
def reaches (f : Files) (p : Place) (name : String) : Bool :=
  if name = "." || name = ".." then f.isDirectory p.location
  else if name = "" then !Path.isHere p.path && f.isDirectory p.location
  else f.isThere (p.location.enter name)

/-- The names `.` and `..`, as far as a component that starts with a period matches them. -/
def specials (ts : List Token) : List String :=
  if ts.head? = some (.char '.') then [".", ".."].filter fun n => matchesText ts n.toList else []

/-- The places that a pattern leads to. -/
def walk (f : Files) : List Component → Place → List Place
  | [], p => [p]
  | .name text :: rest, p => if reaches f p text then walk f rest (p.enter text) else []
  | .wild ts :: rest, p =>
    if f.isDirectory p.location then
      ((f.names p.location).filter fun n => matchesText ts n.toList).flatMap
          (fun n => walk f rest (p.enter n)) ++
        (specials ts).flatMap fun n => walk f rest (p.enterSpecial n)
    else []
  | .deep :: .deep :: rest, p => walk f (.deep :: rest) p
  | .deep :: c :: rest, p =>
    ((f.below p.location).filter fun ns => ns.getLast?.any c.accepts).flatMap
      fun ns => walk f rest (ns.foldl Place.enter p)
  | [.deep], _ => []

/-- Where a pattern starts. -/
def start (f : Files) (g : Glob) : Place :=
  if g.absolute then ⟨"/", Location.root⟩ else ⟨".", f.here⟩

/-- Does one place come before another? The older file does, and of one age the one whose path
is less. -/
def precedes (f : Files) (a b : Place) : Bool :=
  f.created a.location < f.created b.location ||
    (f.created a.location = f.created b.location && !(Path.key b.path < Path.key a.path : Bool))

/-- The files that a pattern leads to, in the order in which they are loaded. -/
def files (f : Files) (g : Glob) : List Place :=
  if g.directories then []
  else
    let found := (walk f g.components (start f g)).filter fun p => f.isFile p.location
    found.mergeSort (precedes f)

end Glob

end LogSift
