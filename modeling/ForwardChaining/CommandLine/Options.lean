import ForwardChaining.Number.Seconds

/-!
# Options

The options of the command line.  Arguments are read in order, and the first that is not
understood is reported.
-/

namespace ForwardChaining

/-- What the arguments ask for. -/
structure Options where
  /-- The rulebase. -/
  file : Option String := none
  /-- The run is shown to its end, without a session. -/
  batch : Bool := false
  help : Bool := false
  version : Bool := false
  /-- The pause between steps, in nanoseconds. -/
  speed : Option Nat := none
  numberRules : Bool := true
  numberFacts : Bool := false
  color : Bool := true
  trace : Bool := false
  json : Bool := false
  /-- How many snapshots are retained. -/
  history : Option Nat := none
  /-- Where a run record is saved in the end. -/
  saveRun : Option String := none
  /-- The run record that is shown. -/
  showRun : Option String := none
  deriving DecidableEq

/-- Why an argument is not understood. -/
inductive OptionProblem where
  | missingValue (option : String)
  | invalidValue (option value : String)
  | unknownOption (argument : String)
  | extraArgument (argument : String)
  deriving DecidableEq

/-- The wording of a problem. -/
def OptionProblem.message : OptionProblem → String
  | missingValue option => option ++ " requires a value"
  | invalidValue option value => "invalid " ++ option ++ " value: " ++ value
  | unknownOption argument => "unknown option: " ++ argument
  | extraArgument argument => "unexpected extra argument: " ++ argument

namespace Options

/-- An option that stands alone. -/
def flag? (o : Options) : String → Option Options
  | "-h" | "--help" => some { o with help := true }
  | "-V" | "--version" => some { o with version := true }
  | "-b" | "--batch" => some { o with batch := true }
  | "--no-rule-numbers" => some { o with numberRules := false }
  | "--fact-numbers" => some { o with numberFacts := true }
  | "--no-color" => some { o with color := false }
  | "--trace" => some { o with trace := true }
  | "--json" => some { o with json := true }
  | _ => none

/-- The options that are followed by a value. -/
def takesValue (argument : String) : Bool :=
  ["--speed", "--history", "--save-run", "--show-run"].contains argument

/-- An option with its value. -/
def setValue (o : Options) (option value : String) : Except OptionProblem Options :=
  match option with
  | "--speed" =>
    match Number.readSeconds? value.toList with
    | some span => .ok { o with speed := some span }
    | none => .error (.invalidValue option value)
  | "--history" =>
    match Text.readNat? Text.limit64 value.toList with
    | some size => .ok { o with history := some size }
    | none => .error (.invalidValue option value)
  | "--save-run" => .ok { o with saveRun := some value }
  | "--show-run" => .ok { o with showRun := some value }
  | _ => .error (.unknownOption option)

/-- An argument that is not a known option. -/
def setFile (o : Options) (argument : String) : Except OptionProblem Options :=
  if argument.toList.head? = some '-' then .error (.unknownOption argument)
  else if o.file.isSome then .error (.extraArgument argument)
  else .ok { o with file := some argument }

/-- Reads arguments on top of those already read. -/
def readFrom (o : Options) : List String → Except OptionProblem Options
  | [] => .ok o
  | argument :: rest =>
    if takesValue argument then
      match rest with
      | [] => .error (.missingValue argument)
      | value :: rest => do (← o.setValue argument value).readFrom rest
    else
      match o.flag? argument with
      | some o => o.readFrom rest
      | none => do (← o.setFile argument).readFrom rest

/-- Reads arguments. -/
def parse (arguments : List String) : Except OptionProblem Options :=
  readFrom {} arguments

end Options

end ForwardChaining
