import ForwardChaining.CommandLine.Run

/-!
# The executable

Reads arguments, files and standard input, and gives out what the program says.
-/

namespace ForwardChaining

/-- The fault with the given number, which may come negated. -/
private def numberedFault? (number : UInt32) : Option FileFault :=
  match min number (0 - number) with
  | 6 => some .noDevice
  | 20 => some .notDirectory
  | 21 => some .isDirectory
  | 28 => some .noSpace
  | 36 => some .nameTooLong
  | _ => none

/-- The fault behind a failed operation on a file. -/
private def fileFault (e : IO.Error) : FileFault :=
  match e with
  | .noFileOrDirectory .. => .notFound
  | .inappropriateType _ number _ | .invalidArgument _ number _ | .noSuchThing _ number _
  | .resourceExhausted _ number _ => (numberedFault? number).getD (.other (toString e))
  | _ => .other (toString e)

/-- Gives out an emission. -/
private def give (e : Emission) : IO Unit := do
  match e with
  | .pause nanoseconds => IO.sleep (nanoseconds / 1000000).toUInt32
  | e =>
    let out ← IO.getStdout
    let err ← IO.getStderr
    out.putStr e.stdout
    out.flush
    err.putStr e.stderr

/-- The content of a file; `failure` is the error of one that cannot be opened, `unreadable` of
one that cannot be read. -/
private def readFile (path : String) (failure unreadable : String → FileFault → Error) :
    IO (Except Error (List UInt8)) := do
  match ← (IO.FS.Handle.mk path .read).toBaseIO with
  | .error e => return .error (failure path (fileFault e))
  | .ok file =>
    match ← file.readBinToEnd.toBaseIO with
    | .error e => return .error (unreadable path (fileFault e))
    | .ok content => return .ok content.toList

/-- Saves a run record. -/
private def saveRecord (path : String) (record : RunRecord) : IO (Except Error Unit) := do
  match ← (IO.FS.Handle.mk path .write).toBaseIO with
  | .error e => return .error (RunRecord.createError path (fileFault e))
  | .ok file =>
    try
      file.write ⟨record.encode.toArray⟩
      file.flush
      return .ok ()
    catch e => return .error (RunRecord.writeError path (fileFault e))

/-- Takes up the lines of standard input, up to one that ends this. -/
private partial def converse {σ : Type} (prompt : String) (turn : σ → String → IO (Option σ))
    (s : σ) : IO σ := do
  give (.text prompt)
  let line ← (← IO.getStdin).getLine
  if line.isEmpty then return s
  match ← turn s line with
  | none => return s
  | some s => converse prompt turn s

/-- The world outside. -/
private def world : CommandLine.World IO where
  give transcript := transcript.forM give
  loadRulebase path := do
    let content ← readFile path Rulebase.readError Rulebase.readError
    return content.bind fun content =>
      match String.fromUTF8? ⟨content.toArray⟩ with
      | some text => Rulebase.ofFile path text
      | none => .error (Rulebase.readError path .notUtf8)
  loadRecord path := do
    let content ← readFile path RunRecord.openError RunRecord.readError
    return content.bind RunRecord.decode
  saveRecord := saveRecord
  converse := converse

end ForwardChaining

open ForwardChaining in
def main (arguments : List String) : IO UInt32 := do
  return (← world.run arguments).toUInt32
