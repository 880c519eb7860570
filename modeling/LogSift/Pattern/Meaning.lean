import LogSift.Pattern.Branches
import LogSift.Pattern.Expr
import LogSift.Pattern.Fault
import LogSift.Unicode.Folding

/-!
# From what is written to what is meant

Flags hold from where they are set to the end of the group around them, and `Expr.meaning`
carries them along as a `Mode`. Classes are made here: a class is folded before it is
negated, so that a negated class of a letter refuses both cases. Without the `u` flag a class
is one of bytes, and one that could match half a character is refused.
-/

namespace LogSift.Pattern

/-- The flags in force. -/
structure Mode where
  ignoreCase : Bool
  multiLine : Bool
  dotAll : Bool
  swapGreed : Bool
  unicode : Bool
  crlf : Bool
deriving DecidableEq, Repr

namespace Mode

/-- The flags at the start of a pattern. -/
def initial : Mode := ⟨false, false, false, false, true, false⟩

/-- One flag set or cleared. -/
def set (m : Mode) : Flag × Bool → Mode
  | (.ignoreCase, on) => { m with ignoreCase := on }
  | (.multiLine, on) => { m with multiLine := on }
  | (.dotAll, on) => { m with dotAll := on }
  | (.swapGreed, on) => { m with swapGreed := on }
  | (.unicode, on) => { m with unicode := on }
  | (.crlf, on) => { m with crlf := on }
  | (.verbose, _) => m

/-- Flags set and cleared. -/
def apply (m : Mode) (change : FlagChange) : Mode := change.foldl Mode.set m

end Mode

/-- The members of a class with a name. -/
def AsciiClass.set : AsciiClass → CharSet
  | .alnum => CharSet.ofText "30-39 41-5A 61-7A"
  | .alpha => CharSet.ofText "41-5A 61-7A"
  | .ascii => CharSet.ofText "0-7F"
  | .blank => CharSet.ofText "9 20"
  | .cntrl => CharSet.ofText "0-1F 7F"
  | .digit => CharSet.ofText "30-39"
  | .graph => CharSet.ofText "21-7E"
  | .lower => CharSet.ofText "61-7A"
  | .print => CharSet.ofText "20-7E"
  | .punct => CharSet.ofText "21-2F 3A-40 5B-60 7B-7E"
  | .space => CharSet.ofText "9-D 20"
  | .upper => CharSet.ofText "41-5A"
  | .word => CharSet.ofText "30-39 41-5A 5F 61-7A"
  | .xdigit => CharSet.ofText "30-39 41-46 61-66"

/-- The members of a class with a one-letter escape. -/
def PerlClass.set (unicode : Bool) : PerlClass → CharSet
  | .digit => if unicode then Unicode.digit else AsciiClass.digit.set
  | .space => if unicode then Unicode.space else AsciiClass.space.set
  | .word => if unicode then Unicode.word.get else AsciiClass.word.set

namespace Mode

/-- The largest member a class can have. -/
def largest (m : Mode) : Nat := if m.unicode then CharSet.top else 0xFF

/-- A class closed under case, if case does not count. -/
def folded (m : Mode) (s : CharSet) : CharSet :=
  if m.ignoreCase then (if m.unicode then s.fold else s.foldAscii) else s

/-- A class folded, then negated; a class of bytes has to stay within ASCII. -/
def finish (m : Mode) (negated : Bool) (s : CharSet) : Except Fault CharSet :=
  let s := m.folded s
  let s := if negated then s.complUpTo m.largest else s
  if m.unicode || s.isAscii then .ok s else .error .invalidUtf8

/-- A character as a unit or a member of a class. -/
def literal (m : Mode) (l : Literal) : Except Fault Nat :=
  if !m.unicode && l.asByte && 0x7F < l.char.toNat then .error .invalidUtf8
  else .ok l.char.toNat

/-- A character as a member of a class. -/
def classLiteral (m : Mode) (l : Literal) : Except Fault Nat := do
  let n ← m.literal l
  if !m.unicode && 0x7F < n then .error .unicodeNotAllowed else return n

/-- A class with a one-letter escape. -/
def perl (m : Mode) (kind : PerlClass) (negated : Bool) : Except Fault CharSet :=
  let s := kind.set m.unicode
  let s := if negated then s.complUpTo m.largest else s
  if m.unicode || s.isAscii then .ok s else .error .invalidUtf8

/-- A class by its Unicode property. -/
def property (m : Mode) (query : Unicode.Query) (negated : Bool) : Except Fault CharSet :=
  if m.unicode then
    match query.resolve with
    | .ok s => m.finish negated s
    | .error .property => .error .propertyNotFound
    | .error .value => .error .propertyValueNotFound
  else .error .unicodeNotAllowed

/-- The members of a bracketed class. -/
def classSet (m : Mode) : ClassSet → Except Fault CharSet
  | .empty => .ok CharSet.empty
  | .literal l => do
    let n ← m.classLiteral l
    return CharSet.range n n
  | .range first last => do
    let lo ← m.classLiteral first
    let hi ← m.classLiteral last
    return CharSet.range lo hi
  | .ascii kind negated => m.finish negated kind.set
  | .perl kind negated => m.perl kind negated
  | .unicode query negated => m.property query negated
  | .nested negated inner => do m.finish negated (← m.classSet inner)
  | .both a b => do
    let s ← m.classSet a
    let t ← m.classSet b
    return s.union t
  | .op kind a b => do
    let s ← m.classSet a
    let t ← m.classSet b
    let s := m.folded s
    let t := m.folded t
    return match kind with
      | .intersection => s.inter t
      | .difference => s.diff t
      | .symmetricDifference => s.symmDiff t

/-- What `.` matches. -/
def dot (m : Mode) : Except Fault CharSet :=
  if !m.unicode then .error .invalidUtf8
  else if m.dotAll then .ok (CharSet.range 0 CharSet.top)
  else if m.crlf then .ok (CharSet.ofText "A D").compl
  else .ok (CharSet.range 0xA 0xA).compl

/-- The position an assertion tests. -/
def look (m : Mode) : Assertion → Look
  | .startLine => if m.multiLine then .lineStart m.crlf else .textStart
  | .endLine => if m.multiLine then .lineEnd m.crlf else .textEnd
  | .startText => .textStart
  | .endText => .textEnd
  | .wordBoundary => .word .any m.unicode
  | .notWordBoundary => .word .none m.unicode
  | .wordStart => .word .start m.unicode
  | .wordEnd => .word .finish m.unicode
  | .wordStartHalf => .word .startHalf m.unicode
  | .wordEndHalf => .word .finishHalf m.unicode

/-- The meaning of one unit. -/
def atom (m : Mode) : Atom → Except Fault Node
  | .literal l => do
    let n ← m.literal l
    return .set (m.folded (CharSet.range n n))
  | .dot => do return .set (← m.dot)
  | .assertion a => .ok (.look (m.look a))
  | .perl kind negated => do return .set (← m.perl kind negated)
  | .unicode query negated => do return .set (← m.property query negated)

end Mode

/-- The meaning of a pattern under the flags in force, and the flags after it. -/
def Expr.meaning (m : Mode) : Expr → Except Fault (Node × Mode)
  | .empty => .ok (.empty, m)
  | .flags change => .ok (.empty, m.apply change)
  | .atom a => do return (← m.atom a, m)
  | .bracket negated s => do
    let s ← m.classSet s
    return (.set (← m.finish negated s), m)
  | .repeated e least most greedy => do
    let (n, m') ← e.meaning m
    return (n.repetition least most (greedy != m.swapGreed), m')
  | .capture index name e => do
    let (n, _) ← e.meaning m
    return (.capture index name n.closed, m)
  | .group change e => do
    let (n, _) ← e.meaning (m.apply change)
    return (n.closed, m)
  | .seq a b => do
    let (x, m) ← a.meaning m
    let (y, m) ← b.meaning m
    return (x.join y, m)
  | .alt a b => do
    let (x, m) ← a.meaning m
    let (y, m) ← b.meaning m
    return (.alt x y, m)

end LogSift.Pattern
