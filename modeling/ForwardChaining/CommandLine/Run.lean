import ForwardChaining.CommandLine.Options
import ForwardChaining.CommandLine.Help
import ForwardChaining.CommandLine.Typing
import ForwardChaining.Presentation
import ForwardChaining.Rulebase.Load
import ForwardChaining.Session.Basic
import ForwardChaining.Trace.Observability

/-!
# The program

The program shows a run to its end, holds a session, or shows a saved run record.  It ends with
code 0 if all went well, with code 2 if it has shown a run that failed, and with code 1 after an
error.  It is written for any world with files, an input and an output (`World.run`); in that of a
disk and a text it is a function of these and its arguments (`run`).
-/

namespace ForwardChaining.CommandLine

/-- The error that ends the program. -/
def complaint (message : String) : Emission :=
  .complaint ("\x1b[31mError: " ++ message ++ "\x1b[0m\n")

/-! ### Plans -/

/-- What the arguments come to. -/
inductive Plan where
  /-- The program gives this out and ends. -/
  | stop (code : Nat) (transcript : Transcript)
  /-- A saved run record is shown. -/
  | showRecord (path : String)
  /-- The rulebase of a file is run. -/
  | work (options : Options) (file : String)
  deriving DecidableEq

/-- What options come to. -/
def Plan.ofOptions (o : Options) : Plan :=
  if o.help then .stop 0 [.line usage]
  else if o.version then .stop 0 [.line ("prodmodel " ++ version)]
  else
    match o.showRun, o.file with
    | some path, _ => .showRecord path
    | none, some file => .work o file
    | none, none => .stop 1 [.line usage, complaint "no rulebase file given"]

/-- What the arguments come to. -/
def Plan.ofArguments (arguments : List String) : Plan :=
  match Options.parse arguments with
  | .ok o => .ofOptions o
  | .error problem => .stop 1 [complaint problem.message]

/-! ### Settings -/

/-- What is kept of the run. -/
def observability (o : Options) : Observability :=
  { enabled := o.trace, json := o.json, historySize := o.history.getD 256 }

/-- The tracer of the run. -/
def tracer (o : Options) : Tracer :=
  .create (observability o).tracerConfig

/-- The settings of the presentation. -/
def presentationConfig (o : Options) : PresentationConfig :=
  { numberRules := o.numberRules
    numberFacts := o.numberFacts
    color := o.color
    speed := o.speed.getD 1000000000 }

/-- The solver of a rulebase; its registry is the only one of the program. -/
def build (o : Options) (b : Rulebase) : Except Error Solver :=
  b.build Registrar.initial.issue.1 (observability o).solverConfig

/-! ### Showing a run -/

/-- The exit code after a run was shown. -/
def exitCode : Option Termination → Nat
  | some .succeeded => 0
  | _ => 2

/-- Shows a run to its end: what is given out, and then the exit code and the solver. -/
def play (o : Options) (solver : Solver) : Transcript × Except Error (Nat × Solver) :=
  match (Presentation.create solver (presentationConfig o) (tracer o)).showInitial with
  | (p, .error e) => (p.transcript, .error e)
  | (p, .ok ()) =>
    match p.solve with
    | (p, .error e) => (p.transcript, .error e)
    | (p, .ok termination) => (p.transcript, .ok (exitCode termination, p.solver))

/-! ### Sessions -/

/-- The session that begins with the given solver. -/
def openSession (o : Options) (solver : Solver) : Session where
  solver := solver
  tracer := tracer o
  styles := if o.color then .ansi else .plain

/-- What is given out before the first command. -/
def greeting (s : Session) : Transcript :=
  [ .line (s.styles.paint s.styles.heading ("prodmodel REPL v" ++ version)),
    .line (toString s.solver.rules.size ++ " rules over "
      ++ toString s.solver.registry.vocabulary.size
      ++ " facts. Type 'help' for commands, Ctrl+D to exit.\n") ]

/-- What is given out when the session ends. -/
def farewell : Transcript :=
  [.line "\nGoodbye!"]

/-- What a line of input is to a session. -/
inductive Input where
  /-- Nothing is asked. -/
  | blank
  /-- The session is to end. -/
  | leave
  | command (line : String)
  deriving DecidableEq

/-- Tells what a line of input is. -/
def Input.ofLine (line : String) : Input :=
  let command := String.ofList (Text.trim (typed line.toList))
  if command.isEmpty then .blank
  else if command = "quit" ∨ command = "exit" then .leave
  else .command command

/-- What is given out for the answer to a command. -/
def present (styles : Styles) : Except Error String → Transcript
  | .ok text => if text.isEmpty then [] else [.line text]
  | .error e => [.complaint (styles.paint styles.failure ("Error: " ++ e.message) ++ "\n")]

/-! ### The program -/

/-- What the program works with: its output, its files and its input.  What it does there is done
in `m`. -/
structure World (m : Type → Type) where
  /-- Gives out a transcript. -/
  give : Transcript → m Unit
  /-- Reads the rulebase of a file. -/
  loadRulebase : String → m (Except Error Rulebase)
  /-- Reads the run record of a file. -/
  loadRecord : String → m (Except Error RunRecord)
  /-- Saves a run record to a file. -/
  saveRecord : String → RunRecord → m (Except Error Unit)
  /-- Gives out the prompt and takes up the line that follows, again and again, until a line ends
  this or there is none. -/
  converse : {σ : Type} → (prompt : String) → (turn : σ → String → m (Option σ)) → σ → m σ

namespace World

variable {m : Type → Type} [Monad m] (w : World m)

/-- Ends the program by an error. -/
def complain (message : String) : m Nat := do
  w.give [complaint message]
  return 1

/-- Takes up a line of input: the session then, unless the line ends it. -/
def respond (s : Session) (line : String) : m (Option Session) :=
  match Input.ofLine line with
  | .leave => return none
  | .blank => return some s
  | .command line => do
    let (after, reply) := s.answer line
    let answer ← Session.settle w.saveRecord reply
    w.give (s.activity after ++ present after.styles answer)
    return some after

/-- Saves the run record, if a path is given for it, and ends with the given code. -/
def finish (o : Options) (solver : Solver) (code : Nat) : m Nat :=
  match o.saveRun with
  | none => return code
  | some path => do
    match ← w.saveRecord path (.capture solver) with
    | .ok () => return code
    | .error e => w.complain e.message

/-- Runs a solver as the options say. -/
def work (o : Options) (solver : Solver) : m Nat :=
  if o.batch then do
    let (transcript, played) := play o solver
    w.give transcript
    match played with
    | .ok (code, solver) => w.finish o solver code
    | .error e => w.complain e.message
  else do
    let s := openSession o solver
    w.give (greeting s)
    let after ← w.converse prompt w.respond s
    w.give farewell
    w.finish o after.solver 0

/-- Runs the program and gives its exit code. -/
def run (arguments : List String) : m Nat :=
  match Plan.ofArguments arguments with
  | .stop code transcript => do
    w.give transcript
    return code
  | .showRecord path => do
    match ← w.loadRecord path with
    | .error e => w.complain e.message
    | .ok record =>
      w.give [.text record.describe]
      return 0
  | .work o file => do
    match (← w.loadRulebase file).bind (build o) with
    | .ok solver => w.work o solver
    | .error e => w.complain e.message

end World

/-! ### Runs on a disk -/

/-- What the program has given out, and what it finds. -/
structure Scene where
  transcript : Transcript
  disk : Disk
  /-- What has not been read of the standard input. -/
  stdin : String

namespace Scene

/-- The scene after something was given out. -/
def give (scene : Scene) (transcript : Transcript) : Scene :=
  { scene with transcript := scene.transcript ++ transcript }

/-- Takes up the given lines of input, up to one that ends this. -/
def converse {σ : Type} (prompt : String) (turn : σ → String → StateM Scene (Option σ)) (s : σ) :
    List String → StateM Scene σ
  | [] => do
    modify (·.give [.text prompt])
    return s
  | line :: rest => do
    modify (·.give [.text prompt])
    match ← turn s line with
    | none => return s
    | some s => converse prompt turn s rest

/-- A disk, with a text as standard input.  A rulebase that is read from there leaves nothing for a
session. -/
def world : World (StateM Scene) where
  give transcript := modify (·.give transcript)
  loadRulebase path := fun scene =>
    let readable := scene.disk.withInput scene.stdin
    (Rulebase.load readable path,
      { scene with stdin := if readable.isInput path then "" else scene.stdin })
  loadRecord path := fun scene =>
    (RunRecord.load (scene.disk.withInput scene.stdin) path, scene)
  saveRecord path record := fun scene =>
    let (saved, disk) := RunRecord.saveTo path record scene.disk
    (saved, { scene with disk := disk })
  converse prompt turn s := fun scene =>
    converse prompt turn s ((Text.lines scene.stdin.toList).map String.ofList) scene

end Scene

/-- What the program has given out and left on the disk, and its exit code. -/
structure Result where
  code : Nat
  transcript : Transcript
  disk : Disk
  deriving DecidableEq

/-- What comes of the scene in which the program ends, with its exit code. -/
def Result.ofEnd (ended : Nat × Scene) : Result where
  code := ended.1
  transcript := ended.2.transcript
  disk := ended.2.disk

/-- Runs the program on a disk, with a text as standard input. -/
def run (arguments : List String) (stdin : String) (disk : Disk) : Result :=
  .ofEnd (Scene.world.run arguments ⟨[], disk, stdin⟩)

end ForwardChaining.CommandLine
