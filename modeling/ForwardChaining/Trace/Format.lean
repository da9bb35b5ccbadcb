import ForwardChaining.Trace.Event
import ForwardChaining.Number.Rounding
import ForwardChaining.Text.Basic

/-!
# Formats of trace records

A record is written as a line for a reader, or as a JSON object.  Facts are written by the
names that a registry gives them.
-/

namespace ForwardChaining

/-- Rules, separated by commas. -/
def listRules (rules : List RuleId) : String :=
  ", ".intercalate (rules.map (·.describe))

/-! ### Lines for a reader -/

/-- The layout of a line for a reader. -/
structure LineFormat where
  /-- The line begins with the record's number. -/
  showIds : Bool := false
  /-- The line shows the time after the pass. -/
  showTimestamps : Bool := false
  deriving DecidableEq

/-- A time in whole microseconds, or with three places in milliseconds or seconds. -/
def describeTimestamp (nanoseconds : Nat) : String :=
  let us := nanoseconds / 1000
  let quotient (den : Nat) :=
    let whole := Number.binary64 ⟨us, 1⟩
    Number.thousandths (Number.binary64 ⟨whole.num, whole.den * den⟩)
  if us ≥ 1000000 then quotient 1000000 ++ "s"
  else if us ≥ 1000 then quotient 1000 ++ "ms"
  else toString us ++ "us"

/-- An event, as the end of a line. -/
def TraceEvent.describe (registry : Registry) : TraceEvent → String
  | runStart rules inputs =>
    "=== RUN START (" ++ toString rules ++ " rules, " ++ toString inputs ++ " inputs) ==="
  | passStart pass => "--- pass " ++ toString pass ++ " ---"
  | passEnd pass fired =>
    "--- pass " ++ toString pass ++ " end (" ++ toString fired ++ " fired) ---"
  | ruleExamined rule performing =>
    "  EXAMINE rule " ++ rule.describe ++ ": " ++ (if performing then "fires" else "skipped")
  | ruleFired rule => "  FIRE rule " ++ rule.describe
  | effectPerformed fact invocations =>
    "    EFFECT " ++ registry.displayName fact ++ " x" ++ toString invocations
  | factAsserted fact rule =>
    "    ASSERT " ++ registry.displayName fact ++ " (rule " ++ rule.describe ++ ")"
  | runSucceeded steps => "=== RUN SUCCEEDED after " ++ toString steps ++ " steps ==="
  | runFailed unsatisfied => "=== RUN FAILED: rules " ++ listRules unsatisfied ++ " unsatisfied ==="
  | custom name data => "  CUSTOM " ++ name ++ ": " ++ data

/-- A record as a line for a reader. -/
def TraceRecord.line (r : TraceRecord) (registry : Registry) (format : LineFormat := {}) :
    String :=
  let id := if format.showIds then "[" ++ Text.zeroPadded 6 r.id ++ "] " else ""
  let time :=
    if format.showTimestamps then Text.padLeft ' ' 10 (describeTimestamp r.timestamp) ++ " " else ""
  id ++ "P" ++ Text.zeroPadded 3 r.pass ++ " " ++ time ++ r.event.describe registry

/-- Records as lines for a reader. -/
def TraceRecord.lines (records : List TraceRecord) (registry : Registry)
    (format : LineFormat := {}) : String :=
  "\n".intercalate (records.map (·.line registry format))

/-- A record whose facts cannot be named, as a line. -/
def TraceRecord.namelessLine (r : TraceRecord) : String :=
  "P" ++ Text.zeroPadded 3 r.pass ++ " [" ++ Text.zeroPadded 6 r.id ++ "] " ++ r.event.kind

/-! ### JSON -/

namespace TraceJson

/-- A character within a string: backslashes, quotation marks, line feeds, carriage returns
and tabs are escaped. -/
def escapeChar : Char → List Char
  | '\\' => ['\\', '\\']
  | '"' => ['\\', '"']
  | '\n' => ['\\', 'n']
  | '\r' => ['\\', 'r']
  | '\t' => ['\\', 't']
  | c => [c]

/-- The string `s` as it is written between quotation marks. -/
def escape (s : String) : String :=
  .ofList (s.toList.flatMap escapeChar)

/-- A field: its name, a colon and its value. -/
def field (name value : String) : String :=
  "\"" ++ name ++ "\":" ++ value

/-- A string value. -/
def text (s : String) : String :=
  "\"" ++ escape s ++ "\""

/-- An array of rule numbers. -/
def ruleArray (rules : List RuleId) : String :=
  "[" ++ ",".intercalate (rules.map fun id => toString id.number) ++ "]"

/-- The fields that tell what the event is about. -/
def eventFields (registry : Registry) : TraceEvent → List String
  | .runStart rules inputs => [field "rules" (toString rules), field "inputs" (toString inputs)]
  | .passStart pass => [field "pass" (toString pass)]
  | .passEnd pass fired => [field "pass" (toString pass), field "fired" (toString fired)]
  | .ruleExamined rule performing =>
    [field "rule" (toString rule.number), field "performing" (toString performing)]
  | .ruleFired rule => [field "rule" (toString rule.number)]
  | .effectPerformed fact invocations =>
    [field "fact" (text (registry.displayName fact)), field "invocations" (toString invocations)]
  | .factAsserted fact rule =>
    [field "fact" (text (registry.displayName fact)), field "rule" (toString rule.number)]
  | .runSucceeded steps => [field "steps" (toString steps)]
  | .runFailed unsatisfied => [field "unsatisfied" (ruleArray unsatisfied)]
  | .custom name data => [field "name" (text name), field "data" (text data)]

end TraceJson

/-- A record as a JSON object. -/
def TraceRecord.json (r : TraceRecord) (registry : Registry) : String :=
  let fields :=
    [ TraceJson.field "id" (toString r.id),
      TraceJson.field "pass" (toString r.pass),
      TraceJson.field "timestamp_ns" (toString r.timestamp),
      TraceJson.field "type" ("\"" ++ r.event.kind ++ "\"") ]
      ++ TraceJson.eventFields registry r.event
  "\x7b" ++ ",".intercalate fields ++ "\x7d"

/-- Records as a JSON array, which is `pretty` if every record has a line of its own. -/
def TraceRecord.jsonArray (records : List TraceRecord) (registry : Registry)
    (pretty : Bool := false) : String :=
  let items := records.map (·.json registry)
  if pretty then "[\n  " ++ ",\n  ".intercalate items ++ "\n]"
  else "[" ++ ",".intercalate items ++ "]"

end ForwardChaining
