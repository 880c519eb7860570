import LogSift.Text.Find

/-!
# Arguments of the command line

The first argument names a command; the others are its flags, expressions and scripts. A long
flag may carry its value behind an equals sign, short flags may be written together, and after
`--` nothing is a flag. The arguments are taken in order, and the first of them that is out of
place, or that asks for the version or for help, decides.
-/

namespace LogSift

/-- What the program is asked to do. -/
inductive Command
  /-- Runs scripts and shows the log. -/
  | run (scripts expressions : List String) (all json fields debug noColor : Bool)
  /-- Reads scripts from a prompt. -/
  | prompt (script : Option String) (debug noColor : Bool)
  /-- Lists the directives. -/
  | reference
  /-- Tells where the configuration is, and what it is. -/
  | config (shown : Bool)
deriving DecidableEq, Repr

/-- Why there is nothing to do. -/
inductive Refusal
  /-- The arguments are out of place. -/
  | misuse
  /-- The version was asked for, of the program or of a command, with or without details. -/
  | version (command : Option String) (long : Bool)
  | help (command : Option String)
deriving DecidableEq, Repr

namespace Arguments

/-- The options of a command. -/
structure Grammar where
  command : String
  /-- The flags: their names, and their letters. -/
  flags : List (String × Option Char)
  /-- Does it take expressions? -/
  expressions : Bool
  /-- The most scripts it takes, if there is a bound. -/
  scripts : Option Nat

/-- What has been collected, the last one first. -/
structure Collected where
  flags : List String
  expressions : List String
  scripts : List String

/-- Does an argument look like a flag? -/
def isFlag (arg : String) : Bool :=
  match arg.toList with
  | '-' :: _ :: _ => true
  | _ => false

/-- Takes a flag. -/
def addFlag (c : Collected) (name : String) : Except Refusal Collected :=
  if c.flags.contains name then .error .misuse else .ok { c with flags := name :: c.flags }

/-- Takes an expression. -/
def addExpression (c : Collected) (text : String) : Collected :=
  { c with expressions := text :: c.expressions }

/-- Takes a script. -/
def addScript (g : Grammar) (c : Collected) (path : String) : Except Refusal Collected :=
  if path = "" || g.scripts.any (· ≤ c.scripts.length) then .error .misuse
  else .ok { c with scripts := path :: c.scripts }

/-- What a flag leads to: what has been collected, and whether the next argument is its value. -/
abbrev Taken := Except Refusal (Collected × Bool)

/-- Takes a long flag, which may have a value. -/
def long (g : Grammar) (c : Collected) (name : String) (value : Option String) : Taken :=
  match value with
  | some text =>
    if name = "expression" && g.expressions then .ok (addExpression c text, false)
    else .error .misuse
  | none =>
    if name = "expression" && g.expressions then .ok (c, true)
    else if name = "version" then .error (.version (some g.command) true)
    else if name = "help" then .error (.help (some g.command))
    else if g.flags.any (·.1 = name) then (addFlag c name).map (·, false)
    else .error .misuse

/-- Takes short flags that are written together. All that follows the letter of expressions is
its value, less an equals sign. -/
def short (g : Grammar) (c : Collected) : List Char → Taken
  | [] => .ok (c, false)
  | letter :: rest =>
    if letter = 'e' && g.expressions then
      match rest with
      | [] => .ok (c, true)
      | '=' :: text => .ok (addExpression c (String.ofList text), false)
      | text => .ok (addExpression c (String.ofList text), false)
    else if letter = 'V' then .error (.version (some g.command) false)
    else if letter = 'h' then .error (.help (some g.command))
    else
      match g.flags.find? (·.2 = some letter) with
      | some (name, _) => do short g (← addFlag c name) rest
      | none => .error .misuse

/-- Takes an argument that looks like a flag. -/
def flag (g : Grammar) (c : Collected) (arg : List Char) : Taken :=
  match arg with
  | '-' :: '-' :: name =>
    match Text.splitAt? ['='] name with
    | some (name, value) => long g c (String.ofList name) (some (String.ofList value))
    | none => long g c (String.ofList name) none
  | '-' :: letters => short g c letters
  | _ => .error .misuse

/-- Collects arguments. -/
def collect (g : Grammar) (c : Collected) : List String → Except Refusal Collected
  | [] => .ok c
  | arg :: rest =>
    if arg = "--" then rest.foldlM (addScript g) c
    else if isFlag arg then do
      match ← flag g c arg.toList with
      | (c, false) => collect g c rest
      | (c, true) =>
        match rest with
        | [] => .error .misuse
        | value :: rest =>
          if isFlag value then .error .misuse else collect g (addExpression c value) rest
    else do collect g (← addScript g c arg) rest

/-- The options of the commands. -/
def grammars : List Grammar := [
  ⟨"run", [("all", some 'a'), ("json", none), ("fields", some 'f'), ("no-color", none),
    ("debug", none)], true, none⟩,
  ⟨"repl", [("no-color", none), ("debug", none)], false, some 1⟩,
  ⟨"reference", [], false, some 0⟩,
  ⟨"config", [("show", none)], false, some 0⟩]

/-- The command with what has been collected. -/
def command (name : String) (c : Collected) : Command :=
  let has (flag : String) : Bool := c.flags.contains flag
  match name with
  | "run" =>
    .run c.scripts.reverse c.expressions.reverse (has "all") (has "json") (has "fields")
      (has "debug") (has "no-color")
  | "repl" => .prompt c.scripts.head? (has "debug") (has "no-color")
  | "config" => .config (has "show")
  | _ => .reference

/-- What asking for help about some commands leads to. -/
def help : List String → Refusal
  | [] => .help none
  | [name] =>
    if name = "help" then .help none
    else if grammars.any (·.command = name) then .help (some name) else .misuse
  | _ => .misuse

/-- What the arguments ask for. -/
def read (args : List String) : Except Refusal Command :=
  match args with
  | [] => .error .misuse
  | name :: rest =>
    if name = "help" then .error (help rest)
    else if name = "--version" then .error (.version none true)
    else if name = "--help" then .error (.help none)
    else
      match name.toList with
      | '-' :: 'V' :: _ => .error (.version none false)
      | '-' :: 'h' :: _ => .error (.help none)
      | _ =>
        match grammars.find? (·.command = name) with
        | none => .error .misuse
        | some g => (collect g ⟨[], [], []⟩ rest).map (command name)

end Arguments

end LogSift
