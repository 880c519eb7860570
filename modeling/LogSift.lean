import LogSift.Main
import LogSift.Proofs.Script.Failure
import LogSift.Proofs.Session.Coherence
import LogSift.Proofs.Session.Highlights
import LogSift.Proofs.Session.Unbounded
import LogSift.Proofs.Script.Reading
import LogSift.Proofs.CommandLine.Assembly
import LogSift.Proofs.Line.Frame
import LogSift.Proofs.Log.Numbers
import LogSift.Proofs.Session.Numbers
import LogSift.Proofs.Script.Refusal
import LogSift.Proofs.Session.Refusal
import LogSift.Proofs.Script.Pieces
import LogSift.Proofs.CommandLine.Console
import LogSift.Proofs.CommandLine.Prompt
import LogSift.Proofs.History.Budget
import LogSift.Proofs.Script.Exchange
import LogSift.Proofs.Script.Alone
import LogSift.Proofs.Script.Lineage
import LogSift.Proofs.Line.Landing
import LogSift.Proofs.Line.Covering
import LogSift.Proofs.Log.Shown
import LogSift.Proofs.Script.Chop
import LogSift.Proofs.Script.Sieve
import LogSift.Proofs.Display.Tiling
import LogSift.Proofs.Script.Literals
import LogSift.Proofs.Script.SedWritten
import LogSift.Proofs.Pattern.Whole
import LogSift.Proofs.Log.FieldSections
import LogSift.Proofs.Log.Learning
import LogSift.Proofs.Log.KeyValues
import LogSift.Proofs.Session.Sorted
import LogSift.Proofs.Log.Duplicates
import LogSift.Proofs.Script.Filters
import LogSift.Proofs.Script.Loaded
import LogSift.Proofs.Demo.Races
import LogSift.Proofs.Projection
import LogSift.Proofs.Session.Matched
import LogSift.Proofs.Line.Clipping
import LogSift.Proofs.Pattern.Unclosed
import LogSift.Proofs.Script.Words
import LogSift.Proofs.Text.Grouping
import LogSift.Proofs.Log.Kinds
