import ForwardChaining.Trace.Tracer

/-!
# Transcripts

What a program gives out while it runs: texts, the messages of effects, the lines of a
tracer, and the pauses between them.  `stdout` and `stderr` are the texts that a transcript
puts on standard output and on standard error.
-/

namespace ForwardChaining

/-- One thing that a program gives out. -/
inductive Emission where
  /-- A text on standard output. -/
  | text (s : String)
  /-- A text on standard error. -/
  | complaint (s : String)
  /-- A message said by an effect, on a line of standard output. -/
  | echo (message : String)
  /-- A line written by a tracer. -/
  | trace (output : TraceOutput) (line : String)
  /-- A pause of so many nanoseconds. -/
  | pause (nanoseconds : Nat)
  deriving DecidableEq

namespace Emission

/-- What the emission puts on standard output. -/
def stdout : Emission → String
  | text s => s
  | echo message => message ++ "\n"
  | trace .stdout line => line ++ "\n"
  | _ => ""

/-- What the emission puts on standard error. -/
def stderr : Emission → String
  | complaint s => s
  | trace .stderr line => line ++ "\n"
  | _ => ""

/-- A line on standard output. -/
def line (s : String) : Emission :=
  text (s ++ "\n")

end Emission

/-- What a program gives out, in order. -/
abbrev Transcript := List Emission

namespace Transcript

/-- What is put on standard output. -/
def stdout (t : Transcript) : String :=
  String.join (t.map Emission.stdout)

/-- What is put on standard error. -/
def stderr (t : Transcript) : String :=
  String.join (t.map Emission.stderr)

/-- The messages said between two states of a run. -/
def echoes (before after : Solver) : Transcript :=
  (after.log.since before.log).map fun i => .echo i.message

/-- The lines written between two states of a tracer. -/
def traceLines (before after : Tracer) : Transcript :=
  (after.written.since before.written).map fun (output, line) => .trace output line

end Transcript

end ForwardChaining
