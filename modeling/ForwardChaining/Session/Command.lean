import ForwardChaining.Text.Basic

/-!
# Commands

The commands of an interactive session.  A command line is a command word, after which an
argument may stand.
-/

namespace ForwardChaining

/-- What is done with the trace. -/
inductive TraceCommand where
  /-- Its state is told. -/
  | status
  | setEnabled (enabled : Bool)
  | setJson (json : Bool)
  | clear
  /-- So many of its latest records are shown. -/
  | showLatest (count : Nat)
  deriving DecidableEq

/-- A command of a session. -/
inductive Command where
  | step
  | iterate
  | run
  | memory
  | rules
  | pending
  | history
  | rewind (step : Nat)
  /-- Blocked rules are explained. -/
  | whyBlocked
  /-- The origin of a fact is told. -/
  | whyFact (name : String)
  | trace (command : TraceCommand)
  | save (path : String)
  | help
  deriving DecidableEq

/-- Why a command line is not understood. -/
inductive CommandProblem where
  | unknownCommand (word : String)
  | rewindUsage (argument : String)
  | unknownTraceOption (word : String)
  | showUsage (argument : String)
  | saveUsage
  deriving DecidableEq

/-- The wording of a problem. -/
def CommandProblem.message : CommandProblem → String
  | unknownCommand word => "unknown command '" ++ word ++ "', type 'help' for a list"
  | rewindUsage argument => "usage: rewind N (got '" ++ argument ++ "')"
  | unknownTraceOption word => "unknown trace option '" ++ word ++ "'"
  | showUsage argument => "usage: trace show [N] (got '" ++ argument ++ "')"
  | saveUsage => "usage: save PATH"

/-- The first word of a text and the trimmed rest. -/
def firstWord (cs : List Char) : String × List Char :=
  match Text.splitFirst? Text.isBlank cs with
  | some (word, rest) => (.ofList word, Text.trim rest)
  | none => (.ofList cs, [])

/-- The number of records that are shown if none is given. -/
def defaultShown : Nat := 20

/-- Reads what is to be done with the trace. -/
def TraceCommand.parse (argument : List Char) : Except CommandProblem TraceCommand :=
  match firstWord argument with
  | ("", _) => .ok .status
  | ("on", _) => .ok (.setEnabled true)
  | ("off", _) => .ok (.setEnabled false)
  | ("json", _) => .ok (.setJson true)
  | ("human", _) => .ok (.setJson false)
  | ("clear", _) => .ok .clear
  | ("show", rest) =>
    if rest.isEmpty then .ok (.showLatest defaultShown)
    else
      match Text.readNat? Text.limit64 rest with
      | some n => .ok (.showLatest n)
      | none => .error (.showUsage (.ofList rest))
  | (word, _) => .error (.unknownTraceOption word)

/-- Reads a command line. -/
def Command.parse (line : String) : Except CommandProblem Command :=
  match firstWord (Text.trim line.toList) with
  | ("step", _) => .ok .step
  | ("iterate", _) => .ok .iterate
  | ("run", _) => .ok .run
  | ("memory", _) => .ok .memory
  | ("rules", _) => .ok .rules
  | ("pending", _) => .ok .pending
  | ("history", _) => .ok .history
  | ("rewind", rest) =>
    match Text.readNat? Text.limit64 rest with
    | some n => .ok (.rewind n)
    | none => .error (.rewindUsage (.ofList rest))
  | ("why", rest) => .ok (if rest.isEmpty then .whyBlocked else .whyFact (.ofList rest))
  | ("trace", rest) => .trace <$> TraceCommand.parse rest
  | ("save", rest) => if rest.isEmpty then .error .saveUsage else .ok (.save (.ofList rest))
  | ("help", _) => .ok .help
  | (word, _) => .error (.unknownCommand word)

end ForwardChaining
