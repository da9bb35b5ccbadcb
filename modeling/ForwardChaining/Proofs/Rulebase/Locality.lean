import Mathlib.Algebra.Group.Nat.Defs
import ForwardChaining.Proofs.Rulebase.RoundTrip
import ForwardChaining.Proofs.Text.Lines

/-!
# Reading line by line

Each line of a rulebase is read on its own, up to the first one that is malformed.  So texts that
follow one another are read in turn, with the lines of the second numbered from behind the first, and
what is read depends on nothing but the statements of the text (`Rulebase.parse_linewise`).
-/

namespace ForwardChaining

/-! ### Declarations on later lines -/

/-- The declaration as it stands `n` lines further down. -/
def NameDeclaration.later (n : Nat) (d : NameDeclaration) : NameDeclaration :=
  { d with line := n + d.line }

/-- The declaration as it stands `n` lines further down. -/
def RuleDeclaration.later (n : Nat) (d : RuleDeclaration) : RuleDeclaration :=
  { d with line := n + d.line }

/-- The declaration as it stands `n` lines further down. -/
def EchoDeclaration.later (n : Nat) (d : EchoDeclaration) : EchoDeclaration :=
  { d with line := n + d.line }

namespace Rulebase

variable {b c : Rulebase} {line n : Nat} {first : String}

/-- The rulebase `b` with the declarations of `c`, as they stand `n` lines further down, behind its
own. -/
def followedBy (b : Rulebase) (n : Nat) (c : Rulebase) : Rulebase where
  source := b.source
  facts := b.facts ++ c.facts.map (.later n)
  inputs := b.inputs ++ c.inputs.map (.later n)
  rules := b.rules ++ c.rules.map (.later n)
  echoes := b.echoes ++ c.echoes.map (.later n)

theorem followedBy_empty (b : Rulebase) (n : Nat) :
  b.followedBy n {} = b
  := by
  simp [followedBy]

theorem add_followedBy (d : Declaration) :
  (b.followedBy n c).add (n + line) d = b.followedBy n (c.add line d)
  := by
  cases d <;>
    simp [followedBy, add, NameDeclaration.later, RuleDeclaration.later, EchoDeclaration.later]

/-! ### Texts one after the other -/

theorem lineNumber_of_lt (early : line < Text.limit32) :
  lineNumber line = line
  := min_eq_left (Nat.le_sub_one_of_lt early)

theorem readLines_append (b : Rulebase) (line : Nat) (texts more : List (List Char)) :
  b.readLines line (texts ++ more)
    = (b.readLines line texts).bind fun b => b.readLines (line + texts.length) more
  := by
  induction texts generalizing b line with
  | nil => rfl
  | cons text texts ih =>
    rw [List.cons_append, readLines, readLines, List.length_cons, ← Nat.add_assoc, Nat.add_right_comm]
    cases Declaration.readLine text with
    | error problem => rfl
    | ok read =>
      cases read with
      | none => exact ih b (line + 1)
      | some d => exact ih (b.add (lineNumber line) d) (line + 1)

/-- What is read behind a rulebase, and `n` lines further down, does not depend on either, as long as
the numbers of the lines last. -/
theorem readLines_followedBy (b : Rulebase) {texts : List (List Char)}
    (few : n + line + texts.length ≤ Text.limit32) :
  (∀ c', c.readLines line texts = .ok c' →
      (b.followedBy n c).readLines (n + line) texts = .ok (b.followedBy n c'))
    ∧ ∀ e, c.readLines line texts = .error e → ∃ problem place text,
      e = ⟨.malformed problem place text, none⟩
        ∧ (b.followedBy n c).readLines (n + line) texts
          = fail (.malformed problem (n + place) text)
  := by
  -- The induction is on what is left to be read, whatever has been read of the second text.
  induction texts generalizing c line with
  | nil =>
    constructor
    · intro c' read
      cases read
      rfl
    · intro e read
      cases read
  | cons text texts ih =>
    rw [List.length_cons] at few
    have place : lineNumber line = line := lineNumber_of_lt (by omega)
    have place' : lineNumber (n + line) = n + line := lineNumber_of_lt (by omega)
    have fewer : n + (line + 1) + texts.length ≤ Text.limit32 := by omega
    rw [readLines, readLines, place, place']
    cases Declaration.readLine text with
    | error problem =>
      constructor
      · intro c' read
        cases read
      · intro e read
        cases read
        exact ⟨_, _, _, rfl, rfl⟩
    | ok read =>
      cases read with
      | none => exact ih fewer
      | some d =>
        dsimp only
        rw [add_followedBy]
        exact ih fewer

/-- The text `first ++ second` is read as the texts `first` and `second` one after the other. -/
structure ReadInTurn (first second : String) : Prop where
  /-- The first malformed line of the first text is that of the whole. -/
  failed : ∀ e, parse first = .error e → parse (first ++ second) = .error e
  /-- If it has none, it is the first one of the second text, with its number in the whole, which has
  fewer than 2 ^ 32 lines. -/
  deferred : (Text.lines (first ++ second).toList).length < 2 ^ 32 → ∀ b e, parse first = .ok b →
    parse second = .error e → ∃ problem line text, e = ⟨.malformed problem line text, none⟩
      ∧ parse (first ++ second)
        = fail (.malformed problem ((Text.lines first.toList).length + line) text)
  /-- If both are well-formed, the whole declares what they declare, if it has fewer than 2 ^ 32
  lines. -/
  joined : (Text.lines (first ++ second).toList).length < 2 ^ 32 → ∀ b c, parse first = .ok b →
    parse second = .ok c →
      parse (first ++ second) = .ok (b.followedBy (Text.lines first.toList).length c)

theorem readInTurn_of_whole (whole : Text.Whole first.toList) (second : String) :
  ReadInTurn first second
  := by
  have turn : parse (first ++ second) = (parse first).bind fun b =>
      b.readLines (1 + (Text.lines first.toList).length) (Text.lines second.toList) := by
    rw [parse, String.toList_append, Text.lines_append whole, readLines_append]
    rfl
  have later : ∀ b, parse first = .ok b → parse (first ++ second)
      = (b.followedBy (Text.lines first.toList).length {}).readLines
        ((Text.lines first.toList).length + 1) (Text.lines second.toList) := by
    intro b read
    rw [turn, read, followedBy_empty, Nat.add_comm]
    rfl
  have numbered (few : (Text.lines (first ++ second).toList).length < 2 ^ 32) :
      (Text.lines first.toList).length + 1 + (Text.lines second.toList).length
        ≤ Text.limit32 := by
    have limit : Text.limit32 = 2 ^ 32 := rfl
    rw [String.toList_append, Text.lines_append whole, List.length_append] at few
    omega
  constructor
  case failed =>
    intro e read
    rw [turn, read]
    rfl
  case deferred =>
    intro few b e read read'
    rw [later b read]
    exact (readLines_followedBy b (numbered few)).2 e read'
  case joined =>
    intro few b c read read'
    rw [later b read]
    exact (readLines_followedBy b (numbered few)).1 c read'

end Rulebase

/-! ### Statements of a rulebase -/

namespace Declaration

/-- What the lines declare, up to the first malformed one. -/
def readAll : List (List Char) → Except Malformation (List Declaration)
  | [] => .ok []
  | text :: rest =>
    match readLine text with
    | .error problem => .error problem
    | .ok none => readAll rest
    | .ok (some d) => (readAll rest).map (d :: ·)

theorem readLine_trim (text : List Char) :
  readLine (Text.trim text) = readLine text
  := by
  rw [readLine, readLine, Text.trim_trim]

theorem readLine_of_idle {text : List Char} (idle : Text.Idle text) :
  readLine text = .ok none
  := by
  have passed : ((Text.trim text).isEmpty || (Text.trim text).head? = some '#') = true := by
    simpa [Text.Idle] using idle
  exact if_pos passed

/-- Lines that are not spoken declare nothing, and blank characters around a line do not matter. -/
theorem readAll_spoken (texts : List (List Char)) :
  readAll (Text.spoken texts) = readAll texts
  := by
  induction texts with
  | nil => rfl
  | cons text texts ih =>
    rw [Text.spoken_cons, readAll]
    by_cases idle : Text.Idle text
    · rw [Text.spoken_of_idle idle, List.nil_append, ih, readLine_of_idle idle]
    · have said : Text.spoken [text] = [Text.trim text] := by
        simp [Text.spoken, Text.idle_trim_iff, idle]
      rw [said, List.singleton_append, readAll, readLine_trim, ih]

end Declaration

namespace Rulebase

variable {b : Rulebase}

/-- From lines that declare what is given, or are malformed in the given way, what results is the
rulebase `b` with these declarations, whatever their places, or a report of the malformation. -/
inductive Results (b : Rulebase) :
    Except Malformation (List Declaration) → Except Error Rulebase → Prop where
  | ok {ds : List Declaration} {c : Rulebase}
      (same : c.withoutPlaces = ds.foldl (fun b d => b.add 0 d) b.withoutPlaces) :
      Results b (.ok ds) (.ok c)
  | malformed (problem : Malformation) (line : Nat) (text : String) :
      Results b (.error problem) (fail (.malformed problem.message line text))

theorem results_readLines (b : Rulebase) (line : Nat) (texts : List (List Char)) :
  b.Results (Declaration.readAll texts) (b.readLines line texts)
  := by
  induction texts generalizing b line with
  | nil => exact .ok rfl
  | cons text texts ih =>
    rw [readLines, Declaration.readAll]
    cases Declaration.readLine text with
    | error problem => exact .malformed problem (lineNumber line) _
    | ok read =>
      cases read with
      | none => exact ih b (line + 1)
      | some d =>
        dsimp only
        have rest := ih (b.add (lineNumber line) d) (line + 1)
        generalize Declaration.readAll texts = declared at rest
        generalize (b.add (lineNumber line) d).readLines (line + 1) texts = result at rest
        cases rest with
        | ok same =>
          rw [withoutPlaces_add] at same
          exact .ok same
        | malformed problem line text => exact .malformed problem line text

/-- Texts are read alike: both declare the same, or both are malformed in the same way.  The places
may be others. -/
inductive ReadAlike : Except Error Rulebase → Except Error Rulebase → Prop where
  | ok {b c : Rulebase} (same : b.withoutPlaces = c.withoutPlaces) : ReadAlike (.ok b) (.ok c)
  | malformed (problem : String) (line line' : Nat) (text text' : String) :
      ReadAlike (fail (.malformed problem line text)) (fail (.malformed problem line' text'))

theorem Results.readAlike {declared : Except Malformation (List Declaration)}
    {result result' : Except Error Rulebase} (results : b.Results declared result)
    (results' : b.Results declared result') :
  ReadAlike result result'
  := by
  cases results with
  | ok same =>
    cases results' with
    | ok same' => exact .ok (same.trans same'.symm)
  | malformed problem line text =>
    cases results' with
    | malformed _ line' text' => exact .malformed _ line line' text text'

/-- How a text is read, but for the places, depends on its statements alone. -/
theorem readAlike_of_statements_eq {text text' : String}
    (same : Text.statements text.toList = Text.statements text'.toList) :
  ReadAlike (parse text) (parse text')
  := by
  have declared : Declaration.readAll (Text.lines text.toList)
      = Declaration.readAll (Text.lines text'.toList) := by
    rw [← Declaration.readAll_spoken, ← Declaration.readAll_spoken (Text.lines text'.toList)]
    exact congrArg Declaration.readAll same
  have results := results_readLines {} 1 (Text.lines text.toList)
  rw [declared] at results
  exact results.readAlike (results_readLines {} 1 (Text.lines text'.toList))

/-- Rulebases are read line by line: a text behind a text that is empty or ends in a line feed is read
as it is on its own, and edits that say nothing change nothing but places. -/
theorem parse_linewise :
  (∀ first second : String, Text.Whole first.toList → ReadInTurn first second)
    ∧ ∀ text text' : String, Relation.ReflTransGen Text.Edit text.toList text'.toList →
      ReadAlike (parse text) (parse text')
  := by
  constructor
  · intro first second whole
    exact readInTurn_of_whole whole second
  · intro text text' edits
    exact readAlike_of_statements_eq (Text.statements_eq_of_edits edits)

/-- The second text is malformed at its second line, which is the fourth of both; and to add a note
and write the line ends in the other way does not change how a text is read. -/
theorem parse_linewise_rain :
  (∃ b, parse "facts: rain, wet\n# a note\n" = .ok b)
    ∧ parse "input: rain\nrule rain -> wet"
      = fail (.malformed "expected '<directive>: ...'" 2 "rule rain -> wet")
    ∧ parse ("facts: rain, wet\n# a note\n" ++ "input: rain\nrule rain -> wet")
      = fail (.malformed "expected '<directive>: ...'" 4 "rule rain -> wet")
    ∧ ReadAlike (parse "facts: rain\ninput: rain")
      (parse "facts: rain\r\n # a note\r\ninput: rain")
  := by
  obtain ⟨inTurn, alike⟩ := parse_linewise
  have read : ∃ b, parse "facts: rain, wet\n# a note\n" = .ok b :=
    ⟨{ facts := [⟨"rain", 1⟩, ⟨"wet", 1⟩] }, by decide +kernel⟩
  have malformed : parse "input: rain\nrule rain -> wet"
      = fail (.malformed "expected '<directive>: ...'" 2 "rule rain -> wet") := by
    decide +kernel
  refine ⟨read, malformed, ?_, ?_⟩
  · obtain ⟨b, read⟩ := read
    have whole : Text.Whole "facts: rain, wet\n# a note\n".toList := by
      decide +kernel
    have few : (Text.lines ("facts: rain, wet\n# a note\n"
        ++ "input: rain\nrule rain -> wet").toList).length < 2 ^ 32 := by
      decide +kernel
    obtain ⟨problem, line, text, same, turn⟩ := (inTurn _ _ whole).deferred few b _ read malformed
    cases same
    rw [turn]
    decide +kernel
  · apply alike
    have text : "facts: rain\ninput: rain".toList
        = "facts: rain".toList ++ "\ninput: rain".toList := by
      decide +kernel
    have text' : "facts: rain\r\n # a note\r\ninput: rain".toList = Text.withReturns
        ("facts: rain".toList ++ '\n' :: (" # a note".toList ++ "\ninput: rain".toList)) := by
      decide +kernel
    have ends : Text.AtEnd "\ninput: rain".toList := by
      right; left
      decide +kernel
    have idle : Text.Idle " # a note".toList := by
      decide +kernel
    have single : '\n' ∉ " # a note".toList := by
      decide +kernel
    rw [text, text']
    exact .tail (.single (.insertAfter ends idle single _)) (.returns _)

end Rulebase

end ForwardChaining
