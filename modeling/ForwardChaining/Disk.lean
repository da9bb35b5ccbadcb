import ForwardChaining.Disk.Entry

/-!
# Disks

A disk holds files, directories and devices, named by paths.  A path is followed from name to
name, from the working directory or, if it starts with a slash, from the root; every name but the
last must lead to a directory.  Of what lies outside the working directory only this is known: how
far the working directory is from the root, and a few directories and devices that are always
there.
-/

namespace ForwardChaining

/-- Files, directories and devices. -/
structure Disk where
  /-- Entries, each under the names that lead to it from the root. -/
  entries : List (List String × DiskEntry)
  deriving DecidableEq

namespace Disk

/-! ### Entries -/

/-- The names that a path is made of. -/
def names (path : String) : List String :=
  (path.splitOn "/").filter (!·.isEmpty)

/-- The names that lead to the working directory.  They are not known: the empty name, which is in
no path, stands for each of them. -/
def workingDirectory : List String := ["", ""]

/-- The disk of the given files and directories, each with its path from the working
directory. -/
def ofList (entries : List (String × DiskEntry)) : Disk :=
  ⟨entries.map fun (path, entry) => (workingDirectory ++ names path, entry)⟩

/-- The directories that are always in the root. -/
def standardDirectories : List (List String × DiskEntry) :=
  ["bin", "boot", "dev", "etc", "home", "lib", "media", "mnt", "opt", "proc", "run", "sbin", "srv",
    "sys", "tmp", "usr", "var"].map fun name => ([name], .directory)

/-- The devices that are always there. -/
def standardDevices : List (List String × DiskEntry) :=
  [ ("null", .null), ("zero", .endless), ("random", .endless), ("urandom", .endless),
    ("full", .full), ("tty", .terminal) ].map fun (name, device) =>
      (["dev", name], DiskEntry.device device)

/-- All entries, with those that are always there. -/
def allEntries (d : Disk) : List (List String × DiskEntry) :=
  d.entries ++ standardDirectories ++ standardDevices

/-- The entry under the given names.  Whatever is above an entry is a directory. -/
def entry? (d : Disk) (place : List String) : Option DiskEntry :=
  match d.allEntries.lookup place with
  | some entry => some entry
  | none => if d.allEntries.any (place.isPrefixOf ·.1) then some .directory else none

/-! ### Paths -/

/-- Where a path leads. -/
structure Place where
  /-- The names that lead there from the root, without detours. -/
  names : List String
  /-- What is there; nothing, if only the directory that would hold it is. -/
  entry : Option DiskEntry
  deriving DecidableEq

/-- Follows names from a place.  The root holds itself. -/
def follow (d : Disk) (here : Place) : List String → Except FileFault Place
  | [] => .ok here
  | name :: rest =>
    match here.entry with
    | none => .error .notFound
    | some .directory =>
      if name = "." then d.follow here rest
      else if name = ".." then d.follow ⟨here.names.dropLast, some .directory⟩ rest
      else if name.utf8ByteSize > 255 then .error .nameTooLong
      else
        let there := here.names ++ [name]
        d.follow ⟨there, d.entry? there⟩ rest
    | some _ => .error .notDirectory

/-- The largest size of a path, in bytes. -/
def maxPathSize : Nat := 4095

/-- The directory that a path is followed from. -/
def start (path : String) : Except FileFault Place :=
  if path.contains '\x00' then .error .nullInPath
  else if path.isEmpty then .error .notFound
  else if path.utf8ByteSize > maxPathSize then .error .nameTooLong
  else .ok ⟨if path.startsWith "/" then [] else workingDirectory, some .directory⟩

/-- Where a path leads.  One that ends in a slash must lead to a directory. -/
def locate (d : Disk) (path : String) : Except FileFault Place := do
  d.follow (← start path) (if path.endsWith "/" then names path ++ ["."] else names path)

/-- The directory that the last name of a path is looked up in. -/
def holder (d : Disk) (path : String) : Except FileFault Place := do
  d.follow (← start path) ((names path).dropLast ++ ["."])

/-! ### Reading -/

/-- Opens what a path leads to. -/
def open? (d : Disk) (path : String) : Except FileFault DiskEntry := do
  match (← d.locate path).entry with
  | some entry => entry.opened
  | none => throw .notFound

/-- The text of a file. -/
def readText (d : Disk) (path : String) : Except FileFault String := do
  let content ← (← d.open? path).content?
  match String.fromUTF8? ⟨content.toArray⟩ with
  | some text => return text
  | none => throw .notUtf8

/-! ### Writing -/

/-- Opens what a path leads to for writing: the place to write at.  A path that ends in a slash
names no file, whether or not there is something with that name. -/
def create? (d : Disk) (path : String) : Except FileFault Place := do
  if path.endsWith "/" then
    let _ ← d.holder path
    throw .isDirectory
  let place ← d.locate path
  match place.entry with
  | some .directory => throw .isDirectory
  | some entry => return { place with entry := some (← entry.opened) }
  | none => return place

/-- Writes at a place that has been opened for it: its content is replaced, if it is a file or
nothing yet. -/
def fill (d : Disk) (place : Place) (content : List UInt8) : Except FileFault Disk :=
  match place.entry with
  | some (.device .full) => .error .noSpace
  | some (.device _) => .ok d
  | _ => .ok ⟨d.entries.filter (·.1 ≠ place.names) ++ [(place.names, .file content)]⟩

/-- The files directly in the working directory of `d` that are not the same on the disk `before`,
with their names. -/
def changes (before d : Disk) : List (String × List UInt8) :=
  d.entries.filterMap fun
    | (["", "", name], .file content) =>
      if before.entries.lookup ["", "", name] = some (.file content) then none
      else some (name, content)
    | _ => none

/-! ### Standard input -/

/-- Where standard input is found on a disk. -/
def inputPlaces : List (List String) :=
  [["dev", "stdin"], ["dev", "fd", "0"], ["proc", "self", "fd", "0"]]

/-- The disk, on which a text can be read as standard input. -/
def withInput (d : Disk) (text : String) : Disk :=
  ⟨inputPlaces.map (·, .file text.toUTF8.toList) ++ d.entries⟩

/-- A path leads to standard input. -/
def isInput (d : Disk) (path : String) : Bool :=
  match d.locate path with
  | .ok place => inputPlaces.contains place.names
  | .error _ => false

end Disk

end ForwardChaining
