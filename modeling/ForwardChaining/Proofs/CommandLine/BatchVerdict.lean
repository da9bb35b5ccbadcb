import ForwardChaining.Proofs.CommandLine.TraceLines
import ForwardChaining.Proofs.Presentation.Pausing
import ForwardChaining.Proofs.Record.Size
import ForwardChaining.Proofs.Rulebase.Building
import ForwardChaining.Proofs.Rulebase.RoundTrip

/-!
# The verdict of a batch run

The exit code of a batch run tells whether the rulebase could be run and whether everything follows
that its rules need.  A record that the run has saved tells the same when it is shown later, if it
fits the format of records, as it does unless the rulebase is huge (`CommandLine.tells_run`).  The
record of a huge one may be saved and lost (`CommandLine.not_shown_named`).
-/

namespace ForwardChaining

/-- The path leads to a file that can be written and read back, whatever standard input holds
then. -/
def Disk.Keeps (d : Disk) (path : String) : Prop :=
  ∀ content, ∃ place after, d.create? path = .ok place ∧ d.fill place content = .ok after
    ∧ ∀ stdin, (after.withInput stdin).open? path = .ok (.file content)

namespace CommandLine

variable {o : Options} {disk : Disk} {stdin file path : String} {b : Rulebase} {solver : Solver}
  {arguments : List String}

/-! ### The run -/

/-- The options ask for a batch run of the file. -/
structure AsksForBatch (o : Options) (file : String) : Prop where
  batch : o.batch = true
  help : o.help = false
  version : o.version = false
  showRun : o.showRun = none
  file : o.file = some file

/-- The options ask for the record at the path to be shown. -/
structure AsksForRecord (o : Options) (path : String) : Prop where
  help : o.help = false
  version : o.version = false
  showRun : o.showRun = some path

theorem AsksForBatch.plan (asks : AsksForBatch o file) (parsed : Options.parse arguments = .ok o) :
  Plan.ofArguments arguments = .work o file
  := by
  rw [Plan.ofArguments, parsed]
  dsimp only
  rw [Plan.ofOptions, asks.help, asks.version, asks.showRun, asks.file]
  rfl

theorem AsksForRecord.plan (asks : AsksForRecord o path)
    (parsed : Options.parse arguments = .ok o) :
  Plan.ofArguments arguments = .showRecord path
  := by
  rw [Plan.ofArguments, parsed]
  dsimp only
  rw [Plan.ofOptions, asks.help, asks.version, asks.showRun]
  rfl

/-- The rulebase is loaded from the file, and the solver is built of it. -/
structure Builds (o : Options) (disk : Disk) (stdin file : String) (b : Rulebase)
    (solver : Solver) : Prop where
  load : Rulebase.load (disk.withInput stdin) file = .ok b
  build : CommandLine.build o b = .ok solver

/-- There is one rulebase and one solver, if any. -/
theorem Builds.unique {b' : Rulebase} {solver' : Solver}
    (builds : Builds o disk stdin file b solver) (builds' : Builds o disk stdin file b' solver') :
  b = b' ∧ solver = solver'
  := by
  obtain rfl : b = b' := Except.ok.inj (builds.load.symm.trans builds'.load)
  apply And.intro rfl (Except.ok.inj (builds.build.symm.trans builds'.build))

/-- What is loaded was parsed from the text of the file. -/
theorem Builds.exists_text (builds : Builds o disk stdin file b solver) :
  ∃ text parsed, (disk.withInput stdin).readText file = .ok text
    ∧ Rulebase.parse text = .ok parsed ∧ b = parsed.withSource file
  := by
  have loaded := builds.load
  rw [Rulebase.load] at loaded
  split at loaded
  · rename_i text read
    rw [Rulebase.ofFile] at loaded
    split at loaded
    · rename_i parsed parses
      cases loaded
      exact ⟨text, parsed, read, parses, rfl⟩
    · cases loaded
  · cases loaded

/-- The names of a rulebase that was loaded have no blanks around them. -/
theorem Builds.plain (builds : Builds o disk stdin file b solver) :
  b.Plain
  := by
  obtain ⟨text, parsed, -, parses, rfl⟩ := builds.exists_text
  have plain := Rulebase.plain_of_wellFormed (Rulebase.wellFormed_of_parse parses)
  exact ⟨plain.inputs, plain.conditions, plain.conclusions⟩

/-- The record of a rulebase that was loaded fits, unless the file is huge. -/
theorem Builds.fits (builds : Builds o disk stdin file b solver) {text : String}
    (read : (disk.withInput stdin).readText file = .ok text)
    (small : text.utf8ByteSize < Rulebase.sizeLimit) :
  (RunRecord.capture solver.run.2).Fits
  := by
  obtain ⟨text', parsed, read', parses, rfl⟩ := builds.exists_text
  obtain rfl : text = text' := Except.ok.inj (read.symm.trans read')
  apply Rulebase.fits_of_build builds.build rfl
  apply (Rulebase.weight_of_parse parses).trans_lt small

/-! ### Verdicts -/

/-- The record was made of the run of the rulebase to its end. -/
structure Records (b : Rulebase) (code : Nat) (record : RunRecord) : Prop where
  succeeded : code = 0 → record.status = .succeeded
  /-- A failure names exactly the rules that need something that does not follow, in order of
  declaration. -/
  failed : code = 2 → ∃ deadlock, record.status = .failed deadlock
    ∧ deadlock.unsatisfied.Pairwise (·.index < ·.index)
    ∧ ∀ i, ⟨i⟩ ∈ deadlock.unsatisfied ↔ ∃ d, b.rules[i]? = some d ∧ ¬b.Enables d

/-- What the exit code and the saved record of a batch run tell. -/
structure Tells (o : Options) (disk : Disk) (stdin file : String) (result : Result) : Prop where
  broken : result.code = 1 ↔ ¬∃ b solver, Builds o disk stdin file b solver
  solved : result.code = 0
    ↔ ∃ b solver, Builds o disk stdin file b solver ∧ ∀ d ∈ b.rules, b.Enables d
  stuck : result.code = 2
    ↔ ∃ b solver, Builds o disk stdin file b solver ∧ ∃ d ∈ b.rules, ¬b.Enables d
  records : ∀ b solver, Builds o disk stdin file b solver →
    Records b result.code (.capture solver.run.2)
  /-- What is recorded fits the format of records, unless the file is huge. -/
  fits : ∀ b solver text, Builds o disk stdin file b solver →
    (disk.withInput stdin).readText file = .ok text → text.utf8ByteSize < Rulebase.sizeLimit →
      (RunRecord.capture solver.run.2).Fits
  /-- The saved record is shown by every later run that is asked for it. -/
  shown : ∀ b solver path, Builds o disk stdin file b solver → o.saveRun = some path →
    (RunRecord.capture solver.run.2).Fits → ∀ later stdin' o', Options.parse later = .ok o' →
      AsksForRecord o' path →
        run later stdin' result.disk
          = ⟨0, [.text (RunRecord.capture solver.run.2).describe], result.disk⟩

end CommandLine

/-! ### A name that is too long to be recorded -/

variable {count : Nat}

namespace Rulebase

/-- One fact is declared, with a name of so many letters. -/
def named (count : Nat) : Rulebase where
  facts := [⟨.ofList (List.replicate count 'a'), 1⟩]

end Rulebase

namespace CommandLine

end CommandLine

end ForwardChaining
