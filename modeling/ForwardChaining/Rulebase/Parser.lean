import ForwardChaining.Rulebase.Basic
import ForwardChaining.Error
import ForwardChaining.Text.Basic

/-!
# Reading rulebases

A rulebase is read line by line.  A line that is blank or begins with `#` declares nothing.
Any other line is a directive, a colon and a body:

* `facts: a, b` and `input: a, b` declare names;
* `rule: a & b -> c & d` declares a rule, and `rule label: ...` one with a label;
* `echo a: message` has the message said when `a` is concluded, and `echo a x3: message` has
  it said three times.

Only the form of the lines is checked; that the names are declared is checked when a solver
is built.  Texts are lists of characters here.
-/

namespace ForwardChaining

/-- Why a line is malformed. -/
inductive Malformation where
  | missingColon
  | emptyName
  | missingArrow
  | noConclusions
  | badRepeat (count : List Char)
  | echoWithoutFact
  | unexpectedArgument (keyword : List Char)
  | unknownDirective (keyword : List Char)
  deriving DecidableEq

/-- The wording of a malformation. -/
def Malformation.message : Malformation → String
  | missingColon => "expected '<directive>: ...'"
  | emptyName => "empty fact name"
  | missingArrow => "expected '->' between conditions and conclusions"
  | noConclusions => "rule has no conclusions"
  | badRepeat count => "bad repeat count '" ++ .ofList count ++ "'"
  | echoWithoutFact => "echo needs a fact name"
  | unexpectedArgument keyword =>
    "'" ++ .ofList keyword ++ "' takes no argument before the colon"
  | unknownDirective keyword => "unknown directive '" ++ .ofList keyword ++ "'"

/-- What a line declares. -/
inductive Declaration where
  | facts (names : List (List Char))
  | inputs (names : List (List Char))
  | rule (label : Option (List Char)) (conditions conclusions : List (List Char))
  | echo (fact : List Char) (repeatCount : Nat) (message : List Char)
  deriving DecidableEq

namespace Declaration

/-! ### Parts of a line -/

/-- The trimmed names between separators; a blank list has no names, and no name of any other
list may be blank. -/
def readNames (separator : Char) (list : List Char) : Except Malformation (List (List Char)) :=
  if (Text.trim list).isEmpty then .ok []
  else
    let names := (Text.splitOn separator (Text.trim list)).map Text.trim
    if names.any (·.isEmpty) then .error .emptyName else .ok names

/-- The body of a rule: names joined by `&` on either side of the first arrow. -/
def readRule (label : Option (List Char)) (body : List Char) : Except Malformation Declaration :=
  match Text.splitArrow? body with
  | none => .error .missingArrow
  | some (left, right) => do
    let conditions ← readNames '&' left
    let conclusions ← readNames '&' right
    if conclusions.isEmpty then .error .noConclusions
    else .ok (.rule label conditions conclusions)

/-- A repeat token: the letter `x`, followed by one or more ASCII digits. -/
def isRepeat : List Char → Bool
  | 'x' :: digits => !digits.isEmpty && digits.all Text.isDigit
  | _ => false

/-- The argument of an echo is the name of a fact, after which a repeat token may stand. -/
def readEcho (argument message : List Char) : Except Malformation Declaration :=
  match Text.splitLast? Text.isBlank argument with
  | some (fact, count) =>
    if isRepeat count then
      match Text.readNat? Text.limit32 (count.drop 1) with
      | some n => .ok (.echo (Text.trim fact) n message)
      | none => .error (.badRepeat count)
    else .ok (.echo argument 1 message)
  | none => .ok (.echo argument 1 message)

/-- A directive: the keyword and, if there is one, its argument. -/
def readHead (head : List Char) : List Char × Option (List Char) :=
  match Text.splitFirst? Text.isBlank head with
  | some (keyword, argument) => (keyword, some (Text.trim argument))
  | none => (head, none)

/-! ### Lines -/

/-- Reads a directive with its body, both trimmed. -/
def readDirective (head body : List Char) : Except Malformation Declaration :=
  let (keyword, argument) := readHead head
  match String.ofList keyword, argument with
  | "facts", none => .facts <$> readNames ',' body
  | "input", none => .inputs <$> readNames ',' body
  | "rule", label => readRule (label.filter (!·.isEmpty)) body
  | "echo", some argument => readEcho argument body
  | "echo", none => .error .echoWithoutFact
  | "facts", some _ | "input", some _ => .error (.unexpectedArgument keyword)
  | _, _ => .error (.unknownDirective keyword)

/-- Reads a line, which may declare nothing. -/
def readLine (line : List Char) : Except Malformation (Option Declaration) :=
  let trimmed := Text.trim line
  if trimmed.isEmpty || trimmed.head? = some '#' then .ok none
  else
    match Text.splitFirst? (· = ':') trimmed with
    | none => .error .missingColon
    | some (head, body) => some <$> readDirective (Text.trim head) (Text.trim body)

end Declaration

namespace Rulebase

/-- The rulebase with what the line numbered `line` declares. -/
def add (b : Rulebase) (line : Nat) : Declaration → Rulebase
  | .facts names => { b with facts := b.facts ++ names.map fun n => ⟨.ofList n, line⟩ }
  | .inputs names => { b with inputs := b.inputs ++ names.map fun n => ⟨.ofList n, line⟩ }
  | .rule label conditions conclusions => { b with
      rules := b.rules ++ [⟨label.map String.ofList, conditions.map String.ofList,
        conclusions.map String.ofList, line⟩] }
  | .echo fact count message => { b with
      echoes := b.echoes ++ [⟨.ofList fact, count, .ofList message, line⟩] }

/-- The number that is noted for a line: its own, if that is a number of 32 bits.  All later lines
have the last of these numbers. -/
def lineNumber (line : Nat) : Nat :=
  min line (Text.limit32 - 1)

/-- Adds what the given lines declare, of which the first is the one with the number `line`.  The
first malformed line is reported. -/
def readLines (b : Rulebase) (line : Nat) : List (List Char) → Except Error Rulebase
  | [] => .ok b
  | text :: rest =>
    match Declaration.readLine text with
    | .error problem => fail (.malformed problem.message (lineNumber line) (.ofList text))
    | .ok none => b.readLines (line + 1) rest
    | .ok (some declaration) => (b.add (lineNumber line) declaration).readLines (line + 1) rest

/-- Reads a rulebase. -/
def parse (text : String) : Except Error Rulebase :=
  readLines {} 1 (Text.lines text.toList)

/-- The rulebase with the given source. -/
def withSource (b : Rulebase) (source : String) : Rulebase :=
  { b with source := some source }

end Rulebase

end ForwardChaining
