import LogSift.Pattern.Expr
import LogSift.Pattern.Fault
import LogSift.Text.Blank
import LogSift.Text.Find
import LogSift.Text.Hex
import LogSift.Unicode.Recent

/-!
# Reading a pattern

The reader walks over the pattern once. `Reader.State` holds the groups that are open, the
branches and the parts of the innermost one; `State.step` reads one unit. Every step takes at
least one character, so as many steps as there are characters are enough: `Expr.read` starts
with that many. A bracketed class is read in the same way, one open class a level.

In verbose mode blanks and comments are skipped wherever `skip` stands; inside an escape, a
group's flags or its name they are not.
-/

namespace LogSift.Pattern

namespace Reader

open Text (after? splitAt?)

/-- What is left after blanks and comments; `inComment` is whether a comment is being read. -/
def dropBlank (inComment : Bool) : List Char → List Char
  | [] => []
  | c :: rest =>
    if inComment then dropBlank (c != '\n') rest
    else if isBlank c then dropBlank false rest
    else if c = '#' then dropBlank true rest
    else c :: rest

/-- In verbose mode, what is left after blanks and comments. -/
def skip (verbose : Bool) (cs : List Char) : List Char :=
  if verbose then dropBlank false cs else cs

/-- The character that decides whether a dash makes a range: the next one, or in verbose mode
the next one that is neither blank nor the start of a comment. Where none is left after those,
it is the very next one. -/
def peek (verbose : Bool) (cs : List Char) : Option Char :=
  if verbose then
    match go false cs with
    | some c => some c
    | none => cs.head?
  else cs.head?
where
  /-- The search for a character that counts; `hashSeen` is whether a `#` has been passed. -/
  go (hashSeen : Bool) : List Char → Option Char
    | [] => none
    | c :: rest =>
      if isBlank c then go hashSeen rest
      else if !hashSeen && c = '#' then go true rest
      else some c

/-! ## Numbers -/

/-- The character with a number, unless it is a surrogate or too large. -/
def scalar? (n : Nat) : Option Char :=
  if n < 0xD800 || (0xDFFF < n && n ≤ 0x10FFFF) then some (Char.ofNat n) else none

/-- The digits at the front and what follows them; `verbose` blanks may stand after each. -/
def digits (verbose : Bool) : Nat → List Char → List Char × List Char
  | 0, cs => ([], cs)
  | n + 1, cs =>
    match cs with
    | [] => ([], [])
    | c :: rest =>
      if c.isDigit then
        let (ds, left) := digits verbose n (skip verbose rest)
        (c :: ds, left)
      else ([], c :: rest)

/-- The value of decimal digits. -/
def decimalValue (ds : List Char) : Nat :=
  ds.foldl (fun acc d => acc * 10 + (d.toNat - 48)) 0

/-- A count in braces, blanks around it allowed, and what follows it. -/
def count (verbose : Bool) (cs : List Char) : Except Fault Nat × List Char :=
  let (ds, left) := digits verbose cs.length (Text.trimStart cs)
  let left := if verbose then dropBlank false left else Text.trimStart left
  if ds.isEmpty then (.error .countMissing, left)
  else if decimalValue ds < 0x100000000 then (.ok (decimalValue ds), left)
  else (.error .decimalInvalid, left)

/-! ## Escapes -/

/-- A given number of hexadecimal digits. -/
def hexFixed (verbose : Bool) : Nat → Nat → List Char → Except Fault (Nat × List Char)
  | 0, value, cs => .ok (value, cs)
  | n + 1, value, cs =>
    match cs with
    | [] => .error .escapeUnfinished
    | c :: rest =>
      match Text.hexValue? c with
      | some d => hexFixed verbose n (value * 16 + d) (skip verbose rest)
      | none => .error .hexDigitInvalid

/-- Hexadecimal digits up to a closing brace; `value` is `none` as long as there is no digit. -/
def hexBraced (verbose : Bool) :
    Nat → Option Nat → List Char → Except Fault (Option Nat × List Char)
  | 0, _, _ => .error .escapeUnfinished
  | n + 1, value, cs =>
    match cs with
    | [] => .error .escapeUnfinished
    | c :: rest =>
      if c = '}' then .ok (value, skip verbose rest)
      else match Text.hexValue? c with
        | some d => hexBraced verbose n (some (value.getD 0 * 16 + d)) (skip verbose rest)
        | none => .error .hexDigitInvalid

/-- A character by its number: `width` digits, or any number of them in braces. -/
def hex (verbose : Bool) (width : Nat) (cs : List Char) :
    Except Fault (Atom × List Char) :=
  match skip verbose cs with
  | [] => .error .escapeUnfinished
  | c :: rest =>
    if c = '{' then do
      let (value, left) ← hexBraced verbose (rest.length + 1) none (skip verbose rest)
      match value with
      | none => .error .hexEmpty
      | some n =>
        match scalar? n with
        | some ch => .ok (.literal ⟨ch, false⟩, left)
        | none => .error .hexNotScalar
    else do
      let (n, left) ← hexFixed verbose width 0 (c :: rest)
      match scalar? n with
      | some ch => .ok (.literal ⟨ch, width = 2⟩, left)
      | none => .error .hexNotScalar

/-- The letters of a property's name up to the closing brace. -/
def propertyName (verbose : Bool) : Nat → List Char → Option (List Char × List Char)
  | 0, _ => none
  | n + 1, cs =>
    match cs with
    | [] => none
    | c :: rest =>
      if c = '}' then some ([], rest)
      else (propertyName verbose n (skip verbose rest)).map fun (name, left) => (c :: name, left)

/-- What a property's name in braces asks for, and whether it asks for the rest instead, as `!=`
between a property and its value does. -/
def propertyQuery (name : List Char) : Unicode.Query × Bool :=
  match splitAt? ['!', '='] name with
  | some (p, v) => (.valued (String.ofList p) (String.ofList v), true)
  | none =>
    match splitAt? [':'] name <|> splitAt? ['='] name with
    | some (p, v) => (.valued (String.ofList p) (String.ofList v), false)
    | none => (.named (String.ofList name), false)

/-- A class by its Unicode property; `negated` is whether the escape was `\P`. -/
def property (verbose negated : Bool) (cs : List Char) : Except Fault (Atom × List Char) :=
  match skip verbose cs with
  | [] => .error .escapeUnfinished
  | c :: rest =>
    if c = '{' then
      match propertyName verbose (rest.length + 1) (skip verbose rest) with
      | none => .error .escapeUnfinished
      | some (name, left) =>
        let (query, other) := propertyQuery name
        .ok (.unicode query (negated != other), left)
    else if c = '\\' then .error .unicodeClassInvalid
    else .ok (.unicode (.named (String.singleton c)) negated, skip verbose rest)

/-- Can the character stand in the name of a special boundary? -/
def isBoundaryLetter (c : Char) : Bool := c.isAlpha || c = '-'

/-- The letters of a boundary's name. -/
def boundaryName (verbose : Bool) : Nat → List Char → List Char × List Char
  | 0, cs => ([], cs)
  | n + 1, cs =>
    match cs with
    | [] => ([], [])
    | c :: rest =>
      if isBoundaryLetter c then
        let (name, left) := boundaryName verbose n (skip verbose rest)
        (c :: name, left)
      else ([], c :: rest)

/-- What stands after `\b`: the name of a special boundary in braces, or anything else. -/
def boundary (verbose : Bool) (cs : List Char) : Except Fault (Atom × List Char) :=
  match cs with
  | '{' :: rest =>
    match skip verbose rest with
    | [] => .error .boundaryUnfinished
    | c :: inner =>
      if isBoundaryLetter c then
        let (name, left) := boundaryName verbose (inner.length + 1) (c :: inner)
        match left with
        | '}' :: left =>
          if name = "start".toList then .ok (.assertion .wordStart, left)
          else if name = "end".toList then .ok (.assertion .wordEnd, left)
          else if name = "start-half".toList then .ok (.assertion .wordStartHalf, left)
          else if name = "end-half".toList then .ok (.assertion .wordEndHalf, left)
          else .error .boundaryUnrecognized
        | _ => .error .boundaryUnclosed
      else .ok (.assertion .wordBoundary, cs)
  | _ => .ok (.assertion .wordBoundary, cs)

/-- Can the character be written with a backslash before it to stand for itself? Any ASCII
character can but letters, digits and angle brackets. -/
def isEscapable (c : Char) : Bool :=
  c.toNat < 128 && !c.isAlphanum && c != '<' && c != '>'

/-- The unit after a backslash. -/
def escape (verbose : Bool) : List Char → Except Fault (Atom × List Char)
  | [] => .error .escapeUnfinished
  | c :: rest =>
    if c.isDigit then .error .backreference
    else if isEscapable c then .ok (.literal ⟨c, false⟩, rest)
    else match c with
      | 'x' => hex verbose 2 rest
      | 'u' => hex verbose 4 rest
      | 'U' => hex verbose 8 rest
      | 'p' => property verbose false rest
      | 'P' => property verbose true rest
      | 'd' => .ok (.perl .digit false, rest)
      | 'D' => .ok (.perl .digit true, rest)
      | 's' => .ok (.perl .space false, rest)
      | 'S' => .ok (.perl .space true, rest)
      | 'w' => .ok (.perl .word false, rest)
      | 'W' => .ok (.perl .word true, rest)
      | 'a' => .ok (.literal ⟨'\x07', false⟩, rest)
      | 'f' => .ok (.literal ⟨'\x0c', false⟩, rest)
      | 't' => .ok (.literal ⟨'\t', false⟩, rest)
      | 'n' => .ok (.literal ⟨'\n', false⟩, rest)
      | 'r' => .ok (.literal ⟨'\r', false⟩, rest)
      | 'v' => .ok (.literal ⟨'\x0b', false⟩, rest)
      | 'A' => .ok (.assertion .startText, rest)
      | 'z' => .ok (.assertion .endText, rest)
      | 'b' => boundary verbose rest
      | 'B' => .ok (.assertion .notWordBoundary, rest)
      | '<' => .ok (.assertion .wordStart, rest)
      | '>' => .ok (.assertion .wordEnd, rest)
      | _ => .error .escapeUnrecognized

/-- One unit that is no group, class or repetition. -/
def atom (verbose : Bool) (c : Char) (rest : List Char) : Except Fault (Atom × List Char) :=
  if c = '\\' then escape verbose rest
  else if c = '.' then .ok (.dot, rest)
  else if c = '^' then .ok (.assertion .startLine, rest)
  else if c = '$' then .ok (.assertion .endLine, rest)
  else .ok (.literal ⟨c, false⟩, rest)

/-! ## Bracketed classes -/

/-- A class that is open. -/
structure ClassLevel where
  /-- Was it opened with `[^`? -/
  negated : Bool
  /-- What stands before an operator that waits for its right side. -/
  waiting : Option (SetOp × ClassSet)
  /-- The members since then, the last one first. -/
  members : List ClassSet

namespace ClassLevel

/-- The set read so far. -/
def set (l : ClassLevel) : ClassSet :=
  match l.waiting with
  | none => ClassSet.ofMembers l.members
  | some (op, left) => .op op left (ClassSet.ofMembers l.members)

/-- One more member. -/
def add (l : ClassLevel) (s : ClassSet) : ClassLevel := { l with members := s :: l.members }

/-- An operator: all before it is its left side. -/
def operator (l : ClassLevel) (op : SetOp) : ClassLevel :=
  { l with waiting := some (op, l.set), members := [] }

end ClassLevel

/-- Dashes at the start of a class stand for themselves. -/
def leadingDashes (verbose : Bool) :
    Nat → List ClassSet → List Char → Except Fault (List ClassSet × List Char)
  | 0, _, _ => .error .classUnclosed
  | n + 1, members, cs =>
    match cs with
    | [] => .error .classUnclosed
    | c :: rest =>
      if c = '-' then
        leadingDashes verbose n (.literal ⟨'-', false⟩ :: members) (skip verbose rest)
      else .ok (members, c :: rest)

/-- A class opens: what follows its bracket up to the first proper member. A closing bracket
right at the start stands for itself. -/
def openClass (verbose : Bool) (cs : List Char) : Except Fault (ClassLevel × List Char) :=
  match skip verbose cs with
  | [] => .error .classUnclosed
  | c :: rest => do
    let negated : Bool := c = '^'
    let inner := if negated then skip verbose rest else c :: rest
    let (members, left) ← leadingDashes verbose (inner.length + 1) [] inner
    match members, left with
    | [], ']' :: left =>
      match skip verbose left with
      | [] => .error .classUnclosed
      | left => .ok (⟨negated, none, [.literal ⟨']', false⟩]⟩, left)
    | members, left => .ok (⟨negated, none, members⟩, left)

/-- The class with a name. -/
def asciiClass? (name : List Char) : Option AsciiClass :=
  if name = "alnum".toList then some .alnum
  else if name = "alpha".toList then some .alpha
  else if name = "ascii".toList then some .ascii
  else if name = "blank".toList then some .blank
  else if name = "cntrl".toList then some .cntrl
  else if name = "digit".toList then some .digit
  else if name = "graph".toList then some .graph
  else if name = "lower".toList then some .lower
  else if name = "print".toList then some .print
  else if name = "punct".toList then some .punct
  else if name = "space".toList then some .space
  else if name = "upper".toList then some .upper
  else if name = "word".toList then some .word
  else if name = "xdigit".toList then some .xdigit
  else none

/-- A class such as `[:alpha:]` after its bracket, if the text holds one. -/
def namedClass? (cs : List Char) : Option (ClassSet × List Char) :=
  match cs with
  | ':' :: rest =>
    let negated : Bool := rest.head? = some '^'
    let inner := if negated then rest.drop 1 else rest
    match after? [':', ']'] (inner.dropWhile (· != ':')) with
    | some left =>
      (asciiClass? (inner.takeWhile (· != ':'))).map fun kind => (.ascii kind negated, left)
    | none => none
  | _ => none

/-- One member of a class or one end of a range. -/
def classAtom (verbose : Bool) (c : Char) (rest : List Char) :
    Except Fault (Atom × List Char) :=
  if c = '\\' then escape verbose rest else .ok (.literal ⟨c, false⟩, rest)

/-- A unit as a member of a class. -/
def member : Atom → Except Fault ClassSet
  | .literal l => .ok (.literal l)
  | .perl kind negated => .ok (.perl kind negated)
  | .unicode query negated => .ok (.unicode query negated)
  | _ => .error .classEscapeInvalid

/-- A unit as an end of a range. -/
def rangeEnd : Atom → Except Fault Literal
  | .literal l => .ok l
  | _ => .error .classRangeNotLiteral

/-- One member of a class, or a range. A dash before `]` or another dash makes no range. -/
def classRange (verbose : Bool) (c : Char) (rest : List Char) :
    Except Fault (ClassSet × List Char) := do
  let (first, left) ← classAtom verbose c rest
  match skip verbose left with
  | [] => .error .classUnclosed
  | d :: left =>
    if d != '-' || peek verbose left = some ']' || peek verbose left = some '-' then
      return (← member first, d :: left)
    match skip verbose left with
    | [] => .error .classUnclosed
    | e :: left => do
      let (last, left) ← classAtom verbose e left
      let lo ← rangeEnd first
      let hi ← rangeEnd last
      if lo.char ≤ hi.char then return (.range lo hi, left)
      .error .classRangeInvalid

/-- A bracketed class: the open classes, the innermost first, and the text. -/
def classLoop (verbose : Bool) :
    Nat → ClassLevel → List ClassLevel → List Char → Except Fault (ClassLevel × List Char)
  | 0, _, _, _ => .error .classUnclosed
  | n + 1, level, outer, cs =>
    match skip verbose cs with
    | [] => .error .classUnclosed
    | '[' :: rest =>
      match namedClass? rest with
      | some (s, left) => classLoop verbose n (level.add s) outer left
      | none => do
        let (inner, left) ← openClass verbose rest
        classLoop verbose n inner (level :: outer) left
    | ']' :: rest =>
      match outer with
      | [] => .ok (level, rest)
      | parent :: outer =>
        classLoop verbose n (parent.add (.nested level.negated level.set)) outer rest
    | '&' :: '&' :: rest => classLoop verbose n (level.operator .intersection) outer rest
    | '-' :: '-' :: rest => classLoop verbose n (level.operator .difference) outer rest
    | '~' :: '~' :: rest => classLoop verbose n (level.operator .symmetricDifference) outer rest
    | c :: rest => do
      let (s, left) ← classRange verbose c rest
      classLoop verbose n (level.add s) outer left

/-- The class after its opening bracket. -/
def bracket (verbose : Bool) (cs : List Char) : Except Fault (Expr × List Char) := do
  let (level, left) ← openClass verbose cs
  let (level, left) ← classLoop verbose (left.length + 1) level [] left
  return (.bracket level.negated level.set, left)

/-! ## Groups -/

/-- What a group does with its match. -/
inductive GroupKind
  | capture (index : Nat) (name : Option String)
  | plain (change : FlagChange)

/-- A group that is open, with all that waits around it. -/
structure Level where
  kind : GroupKind
  /-- Branches before the group's own branch, the last one first. -/
  branches : List Expr
  /-- Parts of the branch before the group, the last one first. -/
  items : List Expr
  /-- Was verbose mode on before the group? -/
  verbose : Bool

/-- The state of the reader. -/
structure State where
  /-- The open groups, the innermost first. -/
  outer : List Level
  /-- The innermost group's branches that are complete, the last one first. -/
  branches : List Expr
  /-- The parts of its current branch, the last one first. -/
  items : List Expr
  /-- Is verbose mode on? -/
  verbose : Bool
  /-- The number of capturing groups opened so far. -/
  captures : Nat
  /-- The names given so far. -/
  names : List (List Char)

/-- The flag of a letter. -/
def flag? : Char → Option Flag
  | 'i' => some .ignoreCase
  | 'm' => some .multiLine
  | 's' => some .dotAll
  | 'U' => some .swapGreed
  | 'u' => some .unicode
  | 'R' => some .crlf
  | 'x' => some .verbose
  | _ => none

/-- The flags of a group up to `:` or `)`, and the character that ends them. `negated` is
whether a dash has been read, `dangling` whether it was the last thing read. -/
def flags (negated dangling : Bool) (change : FlagChange) :
    List Char → Except Fault (FlagChange × Char × List Char)
  | [] => .error .flagUnfinished
  | c :: rest =>
    if c = ':' || c = ')' then
      if dangling then .error .flagDanglingNegation else .ok (change, c, rest)
    else if c = '-' then
      if negated then .error .flagRepeatedNegation else flags true true change rest
    else match flag? c with
      | none => .error .flagUnrecognized
      | some f =>
        if change.any (·.1 = f) then .error .flagDuplicate
        else flags negated false (change ++ [(f, !negated)]) rest

/-- Can the character stand in a group's name? -/
def isNameChar (c : Char) (first : Bool) : Bool :=
  c = '_' ||
    if first then Unicode.Recent.letter.get.contains c
    else c = '.' || c = '[' || c = ']' || Unicode.Recent.alphanumeric.get.contains c

/-- A group's name up to its closing bracket. -/
def groupName (name : List Char) : List Char → Except Fault (List Char × List Char)
  | [] => .error .groupNameUnfinished
  | c :: rest =>
    if c = '>' then .ok (name.reverse, rest)
    else if isNameChar c name.isEmpty then groupName (c :: name) rest
    else .error .groupNameInvalid

namespace State

/-- The expression the innermost group holds so far. -/
def expr (st : State) : Expr :=
  if st.branches.isEmpty then Expr.ofItems st.items
  else Expr.ofBranches (Expr.ofItems st.items :: st.branches)

/-- The state inside a new group. -/
def enter (st : State) (kind : GroupKind) (verbose : Bool) : State :=
  { st with
    outer := ⟨kind, st.branches, st.items, st.verbose⟩ :: st.outer
    branches := []
    items := []
    verbose }

/-- The verbose flag after a change of flags. -/
def verboseAfter (st : State) (change : FlagChange) : Bool :=
  match change.find? (·.1 = .verbose) with
  | some (_, on) => on
  | none => st.verbose

/-- A group with a name, after its opening. -/
def enterNamed (st : State) (cs : List Char) : Except Fault (State × List Char) := do
  let (name, left) ← groupName [] cs
  if name.isEmpty then .error .groupNameEmpty
  else if st.names.contains name then .error .groupNameDuplicate
  else
    let index := st.captures + 1
    let st := { st with captures := index, names := name :: st.names }
    return (st.enter (.capture index (some (String.ofList name))) st.verbose, left)

/-- An opening parenthesis has been read. -/
def openGroup (st : State) (cs : List Char) : Except Fault (State × List Char) :=
  let cs := skip st.verbose cs
  if (after? ['?', '='] cs).isSome || (after? ['?', '!'] cs).isSome
      || (after? ['?', '<', '='] cs).isSome || (after? ['?', '<', '!'] cs).isSome then
    .error .lookAround
  else match after? ['?', 'P', '<'] cs with
    | some left => st.enterNamed left
    | none =>
      match after? ['?', '<'] cs with
      | some left => st.enterNamed left
      | none =>
        match cs with
        | '?' :: left =>
          if left.isEmpty then .error .groupUnclosed
          else do
            let (change, closer, left) ← flags false false [] left
            if closer = ')' then
              if change.isEmpty then .error .repetitionMissing
              else
                return ({ st with
                  items := .flags change :: st.items
                  verbose := st.verboseAfter change }, left)
            else return (st.enter (.plain change) (st.verboseAfter change), left)
        | cs =>
          let index := st.captures + 1
          .ok (({ st with captures := index }).enter (.capture index none) st.verbose, cs)

/-- A closing parenthesis has been read. -/
def closeGroup (st : State) : Except Fault State :=
  match st.outer with
  | [] => .error .groupUnopened
  | level :: outer =>
    let group : Expr := match level.kind with
      | .capture index name => .capture index name st.expr
      | .plain change => .group change st.expr
    .ok { st with
      outer
      branches := level.branches
      items := group :: level.items
      verbose := level.verbose }

/-- A repetition takes the last part of the branch. -/
def repeatLast (st : State) (least : Nat) (most : Option Nat) (greedy : Bool) :
    Except Fault State :=
  match st.items with
  | [] => .error .repetitionMissing
  | e :: items =>
    if e.isUnrepeatable then .error .repetitionMissing
    else .ok { st with items := .repeated e least most greedy :: items }

/-- A repetition by `?`, `*` or `+`; a question mark right after it makes it lazy. -/
def repeatSign (st : State) (least : Nat) (most : Option Nat) (cs : List Char) :
    Except Fault (State × List Char) :=
  match cs with
  | '?' :: left => do return (← st.repeatLast least most false, left)
  | left => do return (← st.repeatLast least most true, left)

/-- The bounds of a counted repetition, after its opening brace. -/
def bounds (verbose : Bool) (cs : List Char) :
    Except Fault ((Nat × Option Nat) × List Char) :=
  let (least, left) := count verbose cs
  match left with
  | [] => .error .countUnclosed
  | ',' :: left =>
    match skip verbose left with
    | [] => .error .countUnclosed
    | '}' :: left => do return ((← least, none), '}' :: left)
    | left => do
      let least ← least
      let (most, left) := count verbose left
      return ((least, some (← most)), left)
  | left => do
    let n ← least
    return ((n, some n), left)

/-- A counted repetition, after its opening brace. -/
def repeatCounted (st : State) (cs : List Char) : Except Fault (State × List Char) :=
  match st.items with
  | [] => .error .repetitionMissing
  | e :: _ =>
    if e.isUnrepeatable then .error .repetitionMissing
    else match skip st.verbose cs with
      | [] => .error .countUnclosed
      | cs => do
        let ((least, most), left) ← bounds st.verbose cs
        match left with
        | '}' :: left =>
          let left := skip st.verbose left
          let lazy : Bool := left.head? = some '?'
          let left := if lazy then left.drop 1 else left
          if most.any (· < least) then .error .countReversed
          else return (← st.repeatLast least most !lazy, left)
        | _ => .error .countUnclosed

/-- One unit of the pattern, which starts with `c`. -/
def step (st : State) (c : Char) (rest : List Char) : Except Fault (State × List Char) :=
  match c with
  | '(' => st.openGroup rest
  | ')' => do return (← st.closeGroup, rest)
  | '|' =>
    .ok ({ st with branches := Expr.ofItems st.items :: st.branches, items := [] }, rest)
  | '[' => do
    let (e, left) ← bracket st.verbose rest
    return ({ st with items := e :: st.items }, left)
  | '?' => st.repeatSign 0 (some 1) rest
  | '*' => st.repeatSign 0 none rest
  | '+' => st.repeatSign 1 none rest
  | '{' => st.repeatCounted rest
  | c => do
    let (a, left) ← atom st.verbose c rest
    return ({ st with items := .atom a :: st.items }, left)

/-- Reads to the end of the text, in at most as many steps as given. -/
def run : Nat → State → List Char → Except Fault State
  | 0, st, _ => .ok st
  | n + 1, st, cs =>
    match skip st.verbose cs with
    | [] => .ok st
    | c :: rest => do
      let (st, left) ← st.step c rest
      run n st left

/-- The state before the first character. -/
def start : State := ⟨[], [], [], false, 0, []⟩

end State

end Reader

/-- The structure of a pattern's text. -/
def Expr.read (source : List Char) : Except Fault Expr := do
  let st ← Reader.State.run (source.length + 1) Reader.State.start source
  if st.outer.isEmpty then
    if st.expr.depth .alone ≤ nestLimit then return st.expr else .error .nestedTooDeep
  else .error .groupUnclosed

end LogSift.Pattern
