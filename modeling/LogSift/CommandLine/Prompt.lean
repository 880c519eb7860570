import LogSift.Text.Blank

/-!
# Lines typed at the prompt

A line is a session command if it starts with a colon that no blank follows; a colon before a
blank is the directive for colors. Other lines are directives, and a blank line runs those typed
before it.
-/

namespace LogSift

/-- What a line at the prompt asks for. -/
inductive Prompt
  | quit
  | undo
  | history
  | show
  | reference
  | runBuffer
  | unknownCommand (text : String)
  | directive (text : String)
deriving DecidableEq, Repr

namespace Prompt

/-- The session commands. -/
def ofCommand (text : String) : Prompt :=
  match text with
  | ":quit" => .quit
  | ":q" => .quit
  | ":undo" => .undo
  | ":history" => .history
  | ":show" => .show
  | ":reference" => .reference
  | other => .unknownCommand other

/-- What a line asks for. -/
def ofLine (line : String) : Prompt :=
  let cs := line.toList
  match Text.trim cs with
  | [] => .runBuffer
  | ':' :: c :: rest =>
    if isBlank c then .directive (String.ofList (Text.trimEnd cs))
    else ofCommand (String.ofList (':' :: c :: rest))
  | _ => .directive (String.ofList (Text.trimEnd cs))

end Prompt

end LogSift
