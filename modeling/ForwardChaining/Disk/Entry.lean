/-!
# What paths lead to

A path leads to a file, a directory or a device, or it cannot be followed.
-/

namespace ForwardChaining

/-- Why a path cannot be followed, or what it leads to cannot be used. -/
inductive FileFault where
  | notFound
  | notDirectory
  | isDirectory
  | nameTooLong
  /-- There is nothing behind a device. -/
  | noDevice
  /-- There is no room for what is written. -/
  | noSpace
  /-- There is no end to what is read. -/
  | endless
  | nullInPath
  | notUtf8
  /-- Any other reason, in words. -/
  | other (reason : String)
  deriving DecidableEq

/-- The wording of a fault. -/
def FileFault.message : FileFault → String
  | notFound => "No such file or directory (os error 2)"
  | notDirectory => "Not a directory (os error 20)"
  | isDirectory => "Is a directory (os error 21)"
  | nameTooLong => "File name too long (os error 36)"
  | noDevice => "No such device or address (os error 6)"
  | noSpace => "No space left on device (os error 28)"
  | endless => "out of memory"
  | nullInPath => "file name contained an unexpected NUL byte"
  | notUtf8 => "stream did not contain valid UTF-8"
  | other reason => reason

/-- Something that is used like a file, but keeps nothing of what is written to it. -/
inductive Device where
  /-- Nothing is in it. -/
  | null
  /-- What is in it has no end. -/
  | endless
  /-- What is in it has no end, and it has no room for anything else. -/
  | full
  /-- A terminal, to which the program is not connected. -/
  | terminal
  deriving DecidableEq

/-- What a path leads to: a file with its content, a directory or a device. -/
inductive DiskEntry where
  | file (content : List UInt8)
  | directory
  | device (d : Device)
  deriving DecidableEq

namespace DiskEntry

/-- The entry, if it can be opened. -/
def opened : DiskEntry → Except FileFault DiskEntry
  | device .terminal => .error .noDevice
  | entry => .ok entry

/-- The content of an opened entry. -/
def content? : DiskEntry → Except FileFault (List UInt8)
  | file content => .ok content
  | directory => .error .isDirectory
  | device .null => .ok []
  | device .endless | device .full => .error .endless
  | device .terminal => .error .noDevice

end DiskEntry

end ForwardChaining
