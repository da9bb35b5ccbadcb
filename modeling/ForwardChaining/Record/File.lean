import ForwardChaining.Record.Encoding
import ForwardChaining.Disk

/-!
# Run records in files
-/

namespace ForwardChaining.RunRecord

/-- The error of a file that cannot be made. -/
def createError (path : String) (fault : FileFault) : Error where
  fault := .io ("failed to create file '" ++ path ++ "': " ++ fault.message)

/-- The error of a file that cannot be written to. -/
def writeError (path : String) (fault : FileFault) : Error where
  fault := .io ("failed to write to file '" ++ path ++ "': " ++ fault.message)

/-- The error of a file that cannot be opened. -/
def openError (path : String) (fault : FileFault) : Error where
  fault := .io ("failed to open file '" ++ path ++ "': " ++ fault.message)

/-- The error of a file whose content cannot be read. -/
def readError (path : String) (fault : FileFault) : Error where
  fault := .io ("failed to read file '" ++ path ++ "': " ++ fault.message)

/-- Saves a run record to a file. -/
def save (r : RunRecord) (disk : Disk) (path : String) : Except Error Disk :=
  match disk.create? path with
  | .error fault => .error (createError path fault)
  | .ok place =>
    match disk.fill place r.encode with
    | .error fault => .error (writeError path fault)
    | .ok disk => .ok disk

/-- Saves a run record to a file of the disk at hand. -/
def saveTo (path : String) (r : RunRecord) : StateM Disk (Except Error Unit) := fun disk =>
  match r.save disk path with
  | .ok after => (.ok (), after)
  | .error e => (.error e, disk)

/-- Reads a run record from a file. -/
def load (disk : Disk) (path : String) : Except Error RunRecord :=
  match disk.open? path with
  | .error fault => .error (openError path fault)
  | .ok entry =>
    match entry.content? with
    | .error fault => .error (readError path fault)
    | .ok content => decode content

end ForwardChaining.RunRecord
