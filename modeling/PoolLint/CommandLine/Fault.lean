import PoolLint.Files.Path
import PoolLint.Text.Quoted

/-! What can be wrong with a command line. -/
namespace PoolLint.CommandLine
open PoolLint.Text

inductive UsageFault where
  | unknownOption (name : String)
  | missingValue (option : String)
  | unexpectedValue (option : String)
  | noCommand
  | unknownCommand (name : String)
  | unexpectedArgument (word : String)
  | noPaths
  | missingPath (p : Path)
  | unknownFormat (word : String)
  | reportIsDirectory (p : Path)
  deriving DecidableEq, Repr

def UsageFault.message : UsageFault → String
  | .unknownOption name => s!"No such option: {name}"
  | .missingValue option => s!"Option {option} requires a value"
  | .unexpectedValue option => s!"Option {option} does not take a value"
  | .noCommand => "Missing command"
  | .unknownCommand name => s!"No such command: {quoted name}"
  | .unexpectedArgument word => s!"Unexpected argument: {quoted word}"
  | .noPaths => "Missing paths"
  | .missingPath p => s!"Path {quoted p.text} does not exist"
  | .unknownFormat word => s!"No such report format: {quoted word}"
  | .reportIsDirectory p => s!"Report file {quoted p.text} is a directory"

end PoolLint.CommandLine
