import LogSift.Color
import LogSift.Files.Advice
import LogSift.Files.Glob
import LogSift.Text.Decimal

/-!
# What can go wrong in a script

A `Problem` is why a directive cannot be read, validated or run. Its message names the innermost
cause last.
-/

namespace LogSift

/-- Why a directive fails. -/
inductive Problem
  /-- The pattern of an argument is refused. -/
  | rejected (r : Pattern.Rejection)
  /-- The color of an argument is unknown. -/
  | badColor (f : Color.Fault)
  /-- An argument that takes the rest of the line is missing. -/
  | missingText (what : String)
  /-- An argument of one word is missing. -/
  | missingWord (what : String)
  | notInteger (word : String) (cause : Text.NumberFault)
  | extraArguments
  | unknownDirective (op : String)
  | noKeyAndValue (pattern : String)
  | badDateFormat (format : String)
  /-- The current date in a format is no pattern. -/
  | unusableDate (format : String) (r : Pattern.Rejection)
  | badLineNumber (text : String) (cause : Text.NumberFault)
  | backwardsRange (text : String)
  | unterminatedAddress
  | missingOperation
  | unknownOperation (op : String)
  | unterminatedSubstitution
  | unknownFlags (flags : String)
  /-- A pattern for file names is malformed. -/
  | badFilePattern (pattern : String) (cause : Glob.Fault)
  /-- No file matches a pattern. -/
  | noFiles (pattern : String) (here : Location)
  /-- A file cannot be read. -/
  | unreadable (path : String) (fault : FileFault)
deriving DecidableEq, Repr

namespace Problem

/-- The sentence for a problem. -/
def message : Problem → String
  | rejected r => r.message
  | badColor f => f.message
  | missingText what => s!"expected 1 argument, {what}"
  | missingWord what => s!"expected argument: {what}"
  | notInteger word cause => s!"not an integer: {word}: {cause.message}"
  | extraArguments => "unexpected extra arguments"
  | unknownDirective op => s!"(unknown directive '{op}')"
  | noKeyAndValue pattern =>
    s!"regular expression does not have groups 'key' and 'value': {pattern}"
  | badDateFormat format => s!"invalid date format: {format}"
  | unusableDate format r =>
    s!"date format {format} produced an unusable pattern: {r.message}"
  | badLineNumber text cause => s!"bad line number: {text}: {cause.message}"
  | backwardsRange text => s!"address range {text} is backwards"
  | unterminatedAddress => "unterminated address pattern"
  | missingOperation => "expected sed operation"
  | unknownOperation op => s!"unknown sed operation {op}"
  | unterminatedSubstitution => "expected s/pattern/replacement/"
  | unknownFlags flags => s!"unknown substitution flags: {flags}"
  | badFilePattern pattern cause => s!"invalid file pattern: {pattern}: {cause.message}"
  | noFiles pattern here => Advice.noMatch pattern here
  | unreadable path fault => Advice.unreadable path fault

/-- The rejection of a pattern that a problem comes from. -/
def rejection? : Problem → Option Pattern.Rejection
  | rejected r => some r
  | unusableDate _ r => some r
  | _ => none

end Problem

end LogSift
