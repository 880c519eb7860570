import LogSift.Pattern.Footprint
import LogSift.Pattern.Meaning
import LogSift.Pattern.Reader
import LogSift.Pattern.Rejection
import LogSift.Pattern.Search

/-!
# Patterns

A `Pattern` is a regular expression together with the program that searches for it and the one
that asks for a match of the whole text. The latter is compiled from the source with an anchor
on either side, and a source that cannot be wrapped so is refused, even where it could be
searched for.
-/

namespace LogSift

open Pattern (Fault Node Program Rejection Span Match)

/-- A compiled regular expression. -/
structure Pattern where
  /-- The text it was compiled from. -/
  source : String
  /-- Finds its matches. -/
  finder : Program
  /-- Finds a match only where the whole text is one. -/
  wholeFinder : Program

namespace Pattern

/-- The meaning of a source, if it has one and is not too large. -/
def node (source : List Char) : Except Fault Node := do
  let e ← Expr.read source
  let (n, _) ← e.meaning Mode.initial
  if n.closed.fits then return n.closed else .error .tooBig

/-- The program that searches for a source. -/
def compile (source : List Char) : Except Fault Program := do return (← node source).program

/-- The source between anchors. -/
def wrapped (source : List Char) : List Char := "^(?:".toList ++ source ++ ")$".toList

/-- Compiles a source. -/
def ofSource (source : String) : Except Rejection Pattern :=
  let cs := source.toList
  match compile cs with
  | .error f => .error (Rejection.ofFault f cs cs)
  | .ok finder =>
    match compile (wrapped cs) with
    | .error f => .error (Rejection.ofFault f (wrapped cs) cs)
    | .ok wholeFinder => .ok ⟨source, finder, wholeFinder⟩

/-- Does the text hold a match? -/
def hasMatch (p : Pattern) (text : List Char) : Bool := p.finder.hasMatch text

/-- Is the whole text a match? -/
def hasWholeMatch (p : Pattern) (text : List Char) : Bool := p.wholeFinder.hasMatch text

/-- The matches in a text. -/
def allMatches (p : Pattern) (text : List Char) : List Match := p.finder.allMatches text

/-- The spans of a match and of the groups that took part in it, in the order of the groups. -/
def spansOf (p : Pattern) (m : Match) : List Span :=
  m.span :: p.finder.groups.filterMap fun g => m.group? g.1

/-- The spans of all matches and of their groups. -/
def spans (p : Pattern) (text : List Char) : List Span :=
  (p.allMatches text).flatMap p.spansOf

/-- The span of the group with a name, if it took part in a match. -/
def named? (p : Pattern) (name : String) (m : Match) : Option Span :=
  (p.finder.groups.find? (·.2 = some name)).bind fun g => m.group? g.1

/-- The names of the groups, in the order of the groups. -/
def captureNames (p : Pattern) : List String := p.finder.groups.filterMap (·.2)

/-- The names written in the source behind `(?<` or `(?P<`, wherever those stand. -/
def namesIn : List Char → List String
  | [] => []
  | '(' :: '?' :: rest =>
    let body := match rest with
      | 'P' :: '<' :: body => some body
      | '<' :: body => some body
      | _ => none
    match body with
    | none => namesIn rest
    | some body =>
      let name := body.takeWhile fun c => c.isAlphanum || c = '_'
      if !name.isEmpty && (body.drop name.length).head? = some '>' then
        String.ofList name :: namesIn rest
      else namesIn rest
  | _ :: rest => namesIn rest

/-- The names of groups as the source shows them. -/
def groupNames (p : Pattern) : List String := namesIn p.source.toList

end Pattern

end LogSift
