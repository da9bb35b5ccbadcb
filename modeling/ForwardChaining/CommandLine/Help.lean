/-!
# Texts of the command line
-/

namespace ForwardChaining.CommandLine

/-- The version of the program. -/
def version : String := "0.1.0"

/-- What is written before each command is read. -/
def prompt : String := "prodmodel> "

/-- How the program is used. -/
def usage : String :=
"\x1b[1mprodmodel\x1b[0m - Forward-chaining production system

\x1b[1mUSAGE:\x1b[0m
    prodmodel [OPTIONS] FILE
    prodmodel --show-run PATH

\x1b[1mARGUMENTS:\x1b[0m
    FILE    Rulebase to load

\x1b[1mOPTIONS:\x1b[0m
    -h, --help           Print help information
    -V, --version        Print version information
    -b, --batch          Run to completion with paced output (no REPL)
    --speed SECS         Pause between steps in batch mode (default 1)
    --no-rule-numbers    List rules without R1., R2., ...
    --fact-numbers       Number facts in working memory
    --no-color           Disable ANSI colours

\x1b[1mDEBUG OPTIONS:\x1b[0m
    --trace              Trace solver activity to stderr
    --json               Trace as JSON lines
    --history N          Snapshots kept for rewinding (default 256)
    --save-run PATH      Write a run record when done
    --show-run PATH      Print a saved run record and exit

\x1b[1mEXAMPLES:\x1b[0m
    prodmodel concert.rules                 Step through interactively
    prodmodel -b --speed 0 concert.rules    Solve at full speed
    prodmodel -b --trace --json plan.rules  Solve with a JSON trace

\x1b[1mREPL COMMANDS:\x1b[0m
    step, iterate, run      Advance by one rule, one pass, or to the end
    memory, rules, pending  Inspect the current state
    history, rewind N       List snapshots and go back to one
    why [FACT]              Explain blocked rules or a fact's origin
    trace [on|off|show N]   Control the trace buffer
    save PATH               Write a run record
    Ctrl+D                  Exit REPL"

end ForwardChaining.CommandLine
