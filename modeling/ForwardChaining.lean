import ForwardChaining.Completion
import ForwardChaining.Main
import ForwardChaining.Rulebase.Printer
import ForwardChaining.CommandLine.Run
import ForwardChaining.Proofs.Solver.Creation
import ForwardChaining.Proofs.Solver.TimeTravel
import ForwardChaining.Proofs.Solver.Retention
import ForwardChaining.Proofs.Solver.Fixpoint
import ForwardChaining.Proofs.Solver.Bounds
import ForwardChaining.Proofs.Solver.ReversedChain
import ForwardChaining.Proofs.Solver.Confluence
import ForwardChaining.Proofs.Text.Splitting
import ForwardChaining.Proofs.Rulebase.WellFormed
import ForwardChaining.Proofs.Rulebase.RoundTrip
import ForwardChaining.Proofs.MessagePack.Header
import ForwardChaining.Proofs.MessagePack.Value
import ForwardChaining.Proofs.MessagePack.SelfDelimiting
import ForwardChaining.Proofs.MessagePack.Codec
import ForwardChaining.Proofs.Record.RoundTrip
import ForwardChaining.Proofs.Record.Truncation
import ForwardChaining.Proofs.Explain.Blocked
import ForwardChaining.Proofs.Explain.Unreachable
import ForwardChaining.Proofs.Explain.Deadlock
import ForwardChaining.Proofs.Trace.Recording
import ForwardChaining.Proofs.Trace.Story
import ForwardChaining.Proofs.Trace.Following
import ForwardChaining.Proofs.Trace.Telling
import ForwardChaining.Proofs.Trace.ImplicitStart
import ForwardChaining.Proofs.Trace.Watching
import ForwardChaining.Proofs.Trace.Attribution
import ForwardChaining.Proofs.Trace.PassCounts
import ForwardChaining.Proofs.Trace.Verdicts
import ForwardChaining.Proofs.Trace.Streaming
import ForwardChaining.Proofs.Trace.Showing
import ForwardChaining.Proofs.Registry.Requests
import ForwardChaining.Proofs.Registry.Interning
import ForwardChaining.Proofs.Registry.Ownership
import ForwardChaining.Proofs.Session.Driving
import ForwardChaining.Proofs.CommandLine.TraceLines
import ForwardChaining.Proofs.Json.Grammar
import ForwardChaining.Proofs.Json.Unambiguity
import ForwardChaining.Proofs.Json.Characters
import ForwardChaining.Proofs.Json.Writing
import ForwardChaining.Proofs.Trace.JsonTraces
import ForwardChaining.Proofs.Presentation.Pausing
import ForwardChaining.Proofs.Registry.Naming
import ForwardChaining.Proofs.Rulebase.Meaning
import ForwardChaining.Proofs.CommandLine.BatchVerdict
import ForwardChaining.Proofs.Rulebase.Size
import ForwardChaining.Proofs.Record.Size
import ForwardChaining.Proofs.Registry.Namesakes
import ForwardChaining.Proofs.Solver.Namesakes
import ForwardChaining.Proofs.Explain.Namesakes
import ForwardChaining.Proofs.Trace.Namesakes
import ForwardChaining.Proofs.Session.Namesakes
import ForwardChaining.Proofs.Explain.Origins
import ForwardChaining.Proofs.Solver.Passes
import ForwardChaining.Proofs.Rulebase.Locality
import ForwardChaining.Proofs.Solver.Effects
import ForwardChaining.Proofs.Rulebase.Grammar
import ForwardChaining.Proofs.Trace.Buffering
import ForwardChaining.Proofs.Trace.PassIndex
import ForwardChaining.Proofs.Rulebase.Building
import ForwardChaining.Proofs.Trace.Filtering
import ForwardChaining.Proofs.Json.Spelling
import ForwardChaining.Proofs.Trace.JsonLines
import ForwardChaining.Proofs.Presentation.Numbering
import ForwardChaining.Proofs.Registry.Failures
import ForwardChaining.Proofs.Completion.Words
import ForwardChaining.Proofs.Completion.Names
