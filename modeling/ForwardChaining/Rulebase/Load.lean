import ForwardChaining.Rulebase.Parser
import ForwardChaining.Rulebase.Build
import ForwardChaining.Disk

/-!
# Loading rulebases

A rulebase that is read from a file has the file's path as its source, and so have the errors
met in it.
-/

namespace ForwardChaining

/-- The error of a rulebase that cannot be read. -/
def Rulebase.readError (path : String) (fault : FileFault) : Error where
  fault := .io ("failed to read '" ++ path ++ "': " ++ fault.message)

/-- The line that a fault was met on, if it is a fault of a line. -/
def Fault.line? : Fault → Option Nat
  | malformed _ line _ => some line
  | _ => none

namespace Rulebase

/-- The rulebase of a text that was read from a path. -/
def ofFile (path text : String) : Except Error Rulebase :=
  match parse text with
  | .ok b => .ok (b.withSource path)
  | .error e => .error (e.within { source := some path, line := e.fault.line? })

/-- Reads a rulebase from a disk. -/
def load (disk : Disk) (path : String) : Except Error Rulebase :=
  match disk.readText path with
  | .ok text => ofFile path text
  | .error fault => .error (readError path fault)

end Rulebase

end ForwardChaining
