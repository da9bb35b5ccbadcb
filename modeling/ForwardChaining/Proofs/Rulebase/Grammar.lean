import Mathlib.Data.String.Basic
import ForwardChaining.Proofs.Rulebase.Locality
import ForwardChaining.Proofs.Together

/-!
# The grammar of rulebases

What a line may say: it is idle, or it is a directive, a colon and a body (`Declaration.Says`).  The
names of a list stand between separators (`Text.Lists`), the body of a rule has an arrow in it, and the
argument of an echo may end in a repeat token (`Declaration.Announces`).  None of this speaks of how a
line is read, which is to split it here and there, but a line is read as what it says and refused if it
says nothing (`Declaration.readLine_eq_ok_iff`).  So a text is accepted exactly if each of its lines
says something, and what it declares is what they say, in order (`Rulebase.parse_eq_ok_iff`).  The
number of a line goes with what it says, but only the first 2 ^ 32 - 1 lines have numbers of their own
(`Rulebase.not_numbered_late`).
-/

namespace ForwardChaining

variable {separator : Char} {cs head body argument fact digits message line : List Char}
  {names : List (List Char)}

/-! ### Lists of names -/

/-- The text lists the names: it is blank, and there are none, or it is made of pieces with a
separator between them, none of which is blank, and the names are the pieces, trimmed. -/
inductive Text.Lists (separator : Char) : List Char → List (List Char) → Prop where
  | none {cs : List Char} (blank : trim cs = []) : Lists separator cs []
  | pieces {pieces : List (List Char)} (some : pieces ≠ [])
      (free : ∀ piece ∈ pieces, separator ∉ piece) (visible : ∀ piece ∈ pieces, trim piece ≠ []) :
      Lists separator ([separator].intercalate pieces) (pieces.map trim)

theorem Text.trim_ne_nil_of_infix {piece : List Char} (part : piece <:+: cs)
    (visible : trim piece ≠ []) :
  trim cs ≠ []
  := by
  intro gone
  apply visible
  rw [trim_eq_nil_iff] at gone ⊢
  intro c member
  apply gone c (part.subset member)

namespace Declaration

/-- To read names is to find out which names a text lists. -/
theorem readNames_eq_ok_iff (visible : Text.isBlank separator = false) :
  readNames separator cs = .ok names ↔ Text.Lists separator cs names
  := by
  constructor
  · intro read
    rw [readNames] at read
    split at read
    · rename_i empty
      cases read
      apply Text.Lists.none (List.isEmpty_iff.mp empty)
    · dsimp only at read
      rw [Text.map_trim_splitOn_trim visible] at read
      split at read
      · cases read
      · rename_i noneEmpty
        cases read
        have joined : [separator].intercalate (Text.splitOn separator cs) = cs := by
          rw [Text.splitOn_eq_splitOn, List.intercalate_splitOn]
        conv_lhs => rw [← joined]
        apply Text.Lists.pieces
        · rw [Text.splitOn_eq_splitOn]
          apply List.splitOn_ne_nil
        · intro piece member
          apply (Text.parts_of_mem_splitOn member).2
        · intro piece member gone
          apply noneEmpty
          rw [List.any_eq_true]
          use Text.trim piece, List.mem_map_of_mem member
          rw [gone, List.isEmpty_nil]
  · intro lists
    cases lists with
    | none blank =>
      rw [readNames, blank]
      rfl
    | @pieces pieces some free visible' =>
      have apart : Text.splitOn separator ([separator].intercalate pieces) = pieces := by
        rw [Text.splitOn_eq_splitOn, List.splitOn_intercalate separator free some]
      have nonempty : Text.trim ([separator].intercalate pieces) ≠ [] := by
        obtain ⟨piece, member⟩ := List.exists_mem_of_ne_nil pieces some
        have among : piece ∈ Text.splitOn separator ([separator].intercalate pieces) := by
          rw [apart]
          apply member
        apply Text.trim_ne_nil_of_infix (Text.parts_of_mem_splitOn among).1 (visible' piece member)
      have noneEmpty : ¬(pieces.map Text.trim).any (·.isEmpty) = true := by
        rw [List.any_eq_true]
        rintro ⟨name, member, empty⟩
        obtain ⟨piece, among, rfl⟩ := List.mem_map.mp member
        apply visible' piece among (List.isEmpty_iff.mp empty)
      rw [readNames, if_neg (mt List.isEmpty_iff.mp nonempty)]
      dsimp only
      rw [Text.map_trim_splitOn_trim visible, apart, if_neg noneEmpty]

/-! ### Bodies of rules -/

theorem readRule_eq_ok_iff {label : Option (List Char)} {d : Declaration} :
  readRule label body = .ok d ↔ ∃ left right conditions conclusions,
    body = left ++ '-' :: '>' :: right ∧ ¬ Text.arrow <:+: left
      ∧ Text.Lists '&' left conditions ∧ Text.Lists '&' right conclusions ∧ conclusions ≠ []
      ∧ d = rule label conditions conclusions
  := by
  constructor
  · intro read
    rw [readRule] at read
    split at read
    · cases read
    · rename_i left right split
      obtain ⟨parts, free⟩ := Text.parts_of_splitArrow? split
      obtain ⟨conditions, readLeft, read⟩ := exists_of_bind_eq_ok read
      obtain ⟨conclusions, readRight, read⟩ := exists_of_bind_eq_ok read
      split at read
      · cases read
      · rename_i nonempty
        cases read
        refine ⟨left, right, conditions, conclusions, parts, free, ?_, ?_, ?_, rfl⟩
        · apply (readNames_eq_ok_iff (by decide)).mp readLeft
        · apply (readNames_eq_ok_iff (by decide)).mp readRight
        · apply mt List.isEmpty_iff.mpr nonempty
  · rintro ⟨left, right, conditions, conclusions, rfl, free, listsLeft, listsRight, concludes, rfl⟩
    have readLeft := (readNames_eq_ok_iff (by decide)).mpr listsLeft
    have readRight := (readNames_eq_ok_iff (by decide)).mpr listsRight
    rw [readRule, Text.splitArrow?_append free]
    dsimp only
    rw [readLeft, readRight]
    apply if_neg (mt List.isEmpty_iff.mp concludes)

/-! ### Arguments of echoes -/

/-- Behind another word stands, as the last word of the argument, an `x` followed by digits. -/
def EndsInCount (argument fact digits : List Char) : Prop :=
  ∃ c, argument = fact ++ c :: 'x' :: digits ∧ Text.isBlank c = true ∧ Text.trim fact ≠ []
    ∧ digits ≠ [] ∧ ∀ digit ∈ digits, Text.isDigit digit = true

/-- The argument of an echo announces a fact and how often its message is said: as often as the count
says that it ends in, a number of 32 bits, and once if it does not end in one. -/
inductive Announces (argument : List Char) : List Char → Nat → Prop where
  | counted {fact digits : List Char} (ends : EndsInCount argument fact digits)
      (small : Nat.ofDigitChars 10 digits 0 < 2 ^ 32) :
      Announces argument (Text.trim fact) (Nat.ofDigitChars 10 digits 0)
  | once (uncounted : ∀ fact digits, ¬ EndsInCount argument fact digits) :
      Announces argument argument 1

theorem isRepeat_iff {token : List Char} :
  isRepeat token = true
    ↔ ∃ digits, token = 'x' :: digits ∧ digits ≠ [] ∧ ∀ digit ∈ digits, Text.isDigit digit = true
  := by
  constructor
  · intro token_ok
    unfold isRepeat at token_ok
    split at token_ok
    · rename_i digits
      rw [Bool.and_eq_true, Bool.not_eq_true', List.isEmpty_eq_false_iff, List.all_eq_true]
        at token_ok
      exact ⟨digits, rfl, token_ok⟩
    · cases token_ok
  · rintro ⟨digits, rfl, nonempty, allDigits⟩
    rw [isRepeat, List.isEmpty_eq_false_iff.mpr nonempty, List.all_eq_true.mpr allDigits]
    rfl

theorem splitLast?_of_endsInCount (ends : EndsInCount argument fact digits) :
  Text.splitLast? Text.isBlank argument = some (fact, 'x' :: digits)
    ∧ isRepeat ('x' :: digits) = true
  := by
  obtain ⟨c, rfl, blank, -, nonempty, allDigits⟩ := ends
  constructor
  · apply Text.splitLast?_append_cons blank
    rw [List.forall_mem_cons]
    apply And.intro (by decide)
    intro digit member
    apply Text.isBlank_of_isDigit (allDigits digit member)
  · apply isRepeat_iff.mpr ⟨digits, rfl, nonempty, allDigits⟩

/-- A count is read if it is a number of 32 bits. -/
theorem readEcho_of_endsInCount (ends : EndsInCount argument fact digits) (message : List Char) :
  readEcho argument message
    = if Nat.ofDigitChars 10 digits 0 < 2 ^ 32
      then .ok (echo (Text.trim fact) (Nat.ofDigitChars 10 digits 0) message)
      else .error (.badRepeat ('x' :: digits))
  := by
  obtain ⟨split, token⟩ := splitLast?_of_endsInCount ends
  obtain ⟨c, -, -, -, nonempty, allDigits⟩ := ends
  have number : Text.readNat? Text.limit32 digits
      = if Nat.ofDigitChars 10 digits 0 < 2 ^ 32 then some (Nat.ofDigitChars 10 digits 0)
        else none := Text.readNat?_of_digits nonempty allDigits Text.limit32
  rw [readEcho, split]
  dsimp only
  rw [if_pos token, List.drop_one, List.tail_cons, number]
  by_cases small : Nat.ofDigitChars 10 digits 0 < 2 ^ 32
  · rw [if_pos small, if_pos small]
  · rw [if_neg small, if_neg small]

/-- Without a count the argument is the name of a fact. -/
theorem readEcho_of_uncounted (trimmed : Text.trim argument = argument)
    (uncounted : ∀ fact digits, ¬ EndsInCount argument fact digits) (message : List Char) :
  readEcho argument message = .ok (echo argument 1 message)
  := by
  rw [readEcho]
  split
  · rename_i fact token split
    rw [if_neg]
    intro token_ok
    obtain ⟨c, parts, blank⟩ := Text.parts_of_splitLast? split
    obtain ⟨digits, rfl, nonempty, allDigits⟩ := isRepeat_iff.mp token_ok
    rw [parts] at trimmed
    apply uncounted fact digits
    use c, parts, blank, Text.trim_before_ne_nil trimmed blank
  · rfl

theorem readEcho_eq_ok_iff {d : Declaration} (trimmed : Text.trim argument = argument) :
  readEcho argument message = .ok d
    ↔ ∃ fact count, Announces argument fact count ∧ d = echo fact count message
  := by
  constructor
  · intro read
    by_cases counted : ∃ fact digits, EndsInCount argument fact digits
    · obtain ⟨fact, digits, ends⟩ := counted
      rw [readEcho_of_endsInCount ends] at read
      split at read
      · rename_i small
        cases read
        exact ⟨_, _, .counted ends small, rfl⟩
      · cases read
    · have uncounted (fact digits : List Char) : ¬ EndsInCount argument fact digits := by
        intro ends
        apply counted
        use fact, digits
      rw [readEcho_of_uncounted trimmed uncounted] at read
      cases read
      exact ⟨_, _, .once uncounted, rfl⟩
  · rintro ⟨fact, count, announces, rfl⟩
    cases announces with
    | counted ends small => rw [readEcho_of_endsInCount ends, if_pos small]
    | once uncounted => apply readEcho_of_uncounted trimmed uncounted

/-! ### Directives -/

/-- The directive of a rule gives it this label, or none. -/
inductive Labels : List Char → Option (List Char) → Prop where
  | none : Labels "rule".toList none
  | some {c : Char} {label : List Char} (blank : Text.isBlank c = true)
      (visible : Text.trim label ≠ []) :
      Labels ("rule".toList ++ c :: label) (some (Text.trim label))

/-- A directive and a body, both trimmed, make a declaration. -/
inductive Directs : List Char → List Char → Declaration → Prop where
  | facts {body : List Char} {names : List (List Char)} (lists : Text.Lists ',' body names) :
      Directs "facts".toList body (.facts names)
  | inputs {body : List Char} {names : List (List Char)} (lists : Text.Lists ',' body names) :
      Directs "input".toList body (.inputs names)
  | rule {head left right : List Char} {label : Option (List Char)}
      {conditions conclusions : List (List Char)} (labels : Labels head label)
      (free : ¬ Text.arrow <:+: left) (listsLeft : Text.Lists '&' left conditions)
      (listsRight : Text.Lists '&' right conclusions) (concludes : conclusions ≠ []) :
      Directs head (left ++ '-' :: '>' :: right) (.rule label conditions conclusions)
  | echo {c : Char} {argument fact message : List Char} {count : Nat}
      (blank : Text.isBlank c = true) (visible : Text.trim argument ≠ [])
      (announces : Announces (Text.trim argument) fact count) :
      Directs ("echo".toList ++ c :: argument) message (.echo fact count message)

/-- A keyword ends at the first blank character. -/
theorem readHead_append_cons {keyword : List Char} {c : Char}
    (visible : keyword.any Text.isBlank = false) (blank : Text.isBlank c = true)
    (rest : List Char) :
  readHead (keyword ++ c :: rest) = (keyword, some (Text.trim rest))
  := by
  have before : ∀ c ∈ keyword, Text.isBlank c = false := by
    simpa using visible
  rw [readHead, Text.splitFirst?_append_cons before blank]

/-- A directive without an argument is its keyword. -/
theorem eq_of_readHead {keyword : List Char} (read : readHead head = (keyword, none)) :
  head = keyword
  := by
  rw [readHead] at read
  split at read
  · cases read
  · cases read
    rfl

/-- The argument of a directive is what stands behind its keyword, trimmed. -/
theorem parts_of_readHead {keyword : List Char} (trimmed : Text.trim head = head)
    (read : readHead head = (keyword, some argument)) :
  ∃ c rest, head = keyword ++ c :: rest ∧ Text.isBlank c = true ∧ Text.trim rest ≠ []
    ∧ argument = Text.trim rest
  := by
  rw [readHead] at read
  split at read
  · rename_i rest split
    cases read
    obtain ⟨c, parts, blank, -⟩ := Text.parts_of_splitFirst? split
    rw [parts] at trimmed
    use c, rest, parts, blank, Text.trim_after_ne_nil trimmed blank
  · cases read

theorem labels_of_readHead {argument? : Option (List Char)} (trimmed : Text.trim head = head)
    (read : readHead head = ("rule".toList, argument?)) :
  Labels head (argument?.filter (!·.isEmpty))
  := by
  cases argument? with
  | none =>
    rw [eq_of_readHead read]
    apply Labels.none
  | some argument =>
    obtain ⟨c, rest, rfl, blank, visible, rfl⟩ := parts_of_readHead trimmed read
    rw [Option.filter_some, List.isEmpty_eq_false_iff.mpr visible]
    apply Labels.some blank visible

theorem readDirective_eq_ok_iff {d : Declaration} (trimmed : Text.trim head = head) :
  readDirective head body = .ok d ↔ Directs head body d
  := by
  constructor
  · intro read
    rw [readDirective] at read
    cases keyed : readHead head with
    | mk keyword argument? =>
      simp only [keyed] at read
      split at read
      -- the two lists of names, a rule and an echo; every other directive is an error
      · rename_i named
        obtain ⟨names, readBody, rfl⟩ := exists_of_map_eq_ok read
        rw [eq_of_readHead keyed, String.ofList_eq.mp named]
        apply Directs.facts ((readNames_eq_ok_iff (by decide)).mp readBody)
      · rename_i named
        obtain ⟨names, readBody, rfl⟩ := exists_of_map_eq_ok read
        rw [eq_of_readHead keyed, String.ofList_eq.mp named]
        apply Directs.inputs ((readNames_eq_ok_iff (by decide)).mp readBody)
      · rename_i named
        rw [String.ofList_eq.mp named] at keyed
        obtain ⟨left, right, conditions, conclusions, rfl, free, listsLeft, listsRight, concludes,
          rfl⟩ := readRule_eq_ok_iff.mp read
        apply Directs.rule (labels_of_readHead trimmed keyed) free listsLeft listsRight concludes
      · rename_i argument named
        rw [String.ofList_eq.mp named] at keyed
        obtain ⟨c, rest, rfl, blank, visible, rfl⟩ := parts_of_readHead trimmed keyed
        obtain ⟨fact, count, announces, rfl⟩ := (readEcho_eq_ok_iff (Text.trim_trim rest)).mp read
        apply Directs.echo blank visible announces
      all_goals cases read
  · intro directs
    cases directs with
    | facts lists =>
      change Declaration.facts <$> readNames ',' body = _
      rw [(readNames_eq_ok_iff (by decide)).mpr lists]
      rfl
    | inputs lists =>
      change Declaration.inputs <$> readNames ',' body = _
      rw [(readNames_eq_ok_iff (by decide)).mpr lists]
      rfl
    | @rule _ left right label conditions conclusions labels free listsLeft listsRight concludes =>
      have read : readRule label (left ++ '-' :: '>' :: right)
          = .ok (.rule label conditions conclusions) := readRule_eq_ok_iff.mpr
        ⟨left, right, conditions, conclusions, rfl, free, listsLeft, listsRight, concludes, rfl⟩
      rw [readDirective]
      cases labels with
      | none => exact read
      | some blank visible =>
        rw [readHead_append_cons (by decide) blank, ← read]
        change readRule ((some _).filter (!·.isEmpty)) _ = _
        rw [Option.filter_some, List.isEmpty_eq_false_iff.mpr visible]
        rfl
    | echo blank visible announces =>
      rw [readDirective, readHead_append_cons (by decide) blank]
      change readEcho _ _ = _
      exact (readEcho_eq_ok_iff (Text.trim_trim _)).mpr ⟨_, _, announces, rfl⟩

/-! ### Lines -/

/-- What a line says: nothing if it is idle, and otherwise what is declared by the directive and the
body that stand before and behind its first colon. -/
inductive Says (line : List Char) : Option Declaration → Prop where
  | idle (idle : Text.Idle line) : Says line none
  | declares {head body : List Char} {d : Declaration}
      (parts : Text.trim line = head ++ ':' :: body) (free : ':' ∉ head)
      (directs : Directs (Text.trim head) (Text.trim body) d) :
      Says line (some d)

/-- No directive begins like a comment. -/
theorem Directs.head?_ne {d : Declaration} (directs : Directs head body d) :
  head.head? ≠ some '#'
  := by
  cases directs with
  | facts lists => decide
  | inputs lists => decide
  | rule labels =>
    cases labels with
    | none => decide
    | some blank visible => simp
  | echo blank visible announces => simp

theorem not_idle_of_directs {d : Declaration} (parts : Text.trim line = head ++ ':' :: body)
    (directs : Directs (Text.trim head) (Text.trim body) d) :
  ¬ Text.Idle line
  := by
  rw [Text.Idle, parts]
  rintro (empty | marked)
  · simp at empty
  · cases head with
    | nil => cases marked
    | cons c rest =>
      cases marked
      apply directs.head?_ne
      rw [← List.nil_append ('#' :: rest), Text.trim_append_cons (by decide)]
      rfl

/-- A line that is not idle is read as a directive and a body. -/
theorem readLine_of_not_idle (spoken : ¬ Text.Idle line) :
  readLine line = match Text.splitFirst? (· = ':') (Text.trim line) with
    | none => .error .missingColon
    | some (head, body) => some <$> readDirective (Text.trim head) (Text.trim body)
  := by
  apply if_neg
  simpa [Text.Idle] using spoken

/-- To read a line is to find out what it says. -/
theorem readLine_eq_ok_iff {said : Option Declaration} :
  readLine line = .ok said ↔ Says line said
  := by
  by_cases idle : Text.Idle line
  · rw [readLine_of_idle idle]
    constructor
    · intro read
      cases read
      apply Says.idle idle
    · intro meant
      cases meant with
      | idle => rfl
      | declares parts free directs => apply absurd idle (not_idle_of_directs parts directs)
  · rw [readLine_of_not_idle idle]
    constructor
    · intro read
      split at read
      · cases read
      · rename_i head body split
        obtain ⟨d, readParts, rfl⟩ := exists_of_map_eq_ok read
        obtain ⟨c, parts, colon, free⟩ := Text.parts_of_splitFirst? split
        rw [of_decide_eq_true colon] at parts
        apply Says.declares parts _ ((readDirective_eq_ok_iff (Text.trim_trim head)).mp readParts)
        intro member
        cases free ':' member
    · intro meant
      cases meant with
      | idle idle' => apply absurd idle' idle
      | @declares head body d parts free directs =>
        have before : ∀ c ∈ head, decide (c = ':') = false := by
          intro c member
          apply decide_eq_false
          rintro rfl
          apply free member
        rw [parts, Text.splitFirst?_append_cons before (by decide)]
        dsimp only
        rw [(readDirective_eq_ok_iff (Text.trim_trim head)).mpr directs]
        rfl

/-! ### What is declared on a line -/

/-- The facts that are declared on the given line. -/
def factsOn (line : Nat) : Declaration → List NameDeclaration
  | facts names => names.map fun name => ⟨.ofList name, line⟩
  | _ => []

/-- The inputs that are declared on the given line. -/
def inputsOn (line : Nat) : Declaration → List NameDeclaration
  | inputs names => names.map fun name => ⟨.ofList name, line⟩
  | _ => []

/-- The rule that is declared on the given line. -/
def rulesOn (line : Nat) : Declaration → List RuleDeclaration
  | rule label conditions conclusions =>
    [⟨label.map .ofList, conditions.map .ofList, conclusions.map .ofList, line⟩]
  | _ => []

/-- The echo that is declared on the given line. -/
def echoesOn (line : Nat) : Declaration → List EchoDeclaration
  | echo fact count message => [⟨.ofList fact, count, .ofList message, line⟩]
  | _ => []

/-- What is found in each of the declarations, in order, of lines of which the first has the number
`line`.  What is noted of the number is at most 2 ^ 32 - 1. -/
def gather {α : Type} (find : Nat → Declaration → List α) (line : Nat)
    (said : List (Option Declaration)) : List α :=
  (said.zipIdx line).flatMap fun (d, line) => d.elim [] (find (min line (2 ^ 32 - 1)))

end Declaration

namespace Rulebase

variable {b c : Rulebase} {line : Nat} {said : List (Option Declaration)}

/-- The rulebase with what is said on lines, of which the first has the number `line`, behind its own
declarations. -/
def withLines (b : Rulebase) (line : Nat) (said : List (Option Declaration)) : Rulebase where
  source := b.source
  facts := b.facts ++ Declaration.gather Declaration.factsOn line said
  inputs := b.inputs ++ Declaration.gather Declaration.inputsOn line said
  rules := b.rules ++ Declaration.gather Declaration.rulesOn line said
  echoes := b.echoes ++ Declaration.gather Declaration.echoesOn line said

theorem withLines_add (d : Declaration) :
  (b.add (lineNumber line) d).withLines (line + 1) said = b.withLines line (some d :: said)
  := by
  have number : lineNumber line = min line (2 ^ 32 - 1) := rfl
  rw [number]
  cases d <;>
    simp [withLines, add, Declaration.gather, Declaration.factsOn, Declaration.inputsOn,
      Declaration.rulesOn, Declaration.echoesOn, List.zipIdx_cons]

theorem readLines_eq_ok_iff {texts : List (List Char)} :
  b.readLines line texts = .ok c
    ↔ ∃ said, List.Forall₂ Declaration.Says texts said ∧ c = b.withLines line said
  := by
  induction texts generalizing b line with
  | nil =>
    constructor
    · intro read
      cases read
      exact ⟨[], .nil, by simp [withLines, Declaration.gather]⟩
    · rintro ⟨said, together, rfl⟩
      cases together
      simp [withLines, Declaration.gather, readLines]
  | cons text texts ih =>
    rw [readLines]
    constructor
    · intro read
      cases first : Declaration.readLine text with
      | error problem =>
        rw [first] at read
        cases read
      | ok meant =>
        have meaning := Declaration.readLine_eq_ok_iff.mp first
        rw [first] at read
        cases meant with
        | none =>
          obtain ⟨said, together, rfl⟩ := ih.mp read
          exact ⟨none :: said, .cons meaning together, rfl⟩
        | some d =>
          obtain ⟨said, together, rfl⟩ := ih.mp read
          exact ⟨some d :: said, .cons meaning together, withLines_add d⟩
    · rintro ⟨said, together, rfl⟩
      cases together with
      | @cons _ meant _ said first rest =>
        rw [Declaration.readLine_eq_ok_iff.mpr first]
        cases meant with
        | none => exact ih.mpr ⟨said, rest, rfl⟩
        | some d => exact ih.mpr ⟨said, rest, (withLines_add d).symm⟩

/-- A text is accepted exactly if each of its lines is idle or a directive with a body, and then it
declares what the lines say, in order, each with its number, or with 2 ^ 32 - 1 if that is less. -/
theorem parse_eq_ok_iff (text : String) :
  ((∃ b, parse text = .ok b)
      ↔ ∀ line ∈ Text.lines text.toList, ∃ said, Declaration.Says line said)
    ∧ ∀ b, parse text = .ok b
      ↔ ∃ said, List.Forall₂ Declaration.Says (Text.lines text.toList) said
        ∧ b = ({} : Rulebase).withLines 1 said
  := by
  have declared (b : Rulebase) : parse text = .ok b ↔ _ := readLines_eq_ok_iff
  refine ⟨?_, declared⟩
  constructor
  · rintro ⟨b, read⟩ line member
    obtain ⟨said, together, -⟩ := (declared b).mp read
    obtain ⟨meant, -, meaning⟩ := exists_of_mem_left together member
    use meant
  · intro all
    obtain ⟨said, together⟩ := exists_together all
    exact ⟨_, (declared _).mpr ⟨said, together, rfl⟩⟩

/-- There are blanks around a directive, there is an arrow among the conclusions, a count begins with
zeros, and what looks like one is a name. -/
def storm : String :=
  "# a note\nfacts : rain , wet\n rule storm front: rain -> wet -> dry & wet\n"
    ++ "echo wet x007: splash\necho x3:"

/-- Every line of the storm says something, but a count of more than 32 bits does not. -/
theorem parse_eq_ok_iff_storm :
  parse storm = .ok
      { facts := [⟨"rain", 2⟩, ⟨"wet", 2⟩]
        rules := [⟨some "storm front", ["rain"], ["wet -> dry", "wet"], 3⟩]
        echoes := [⟨"wet", 7, "splash", 4⟩, ⟨"x3", 1, "", 5⟩] }
    ∧ (∀ line ∈ Text.lines storm.toList, ∃ said, Declaration.Says line said)
    ∧ ¬ ∀ line ∈ Text.lines "echo wet x4294967296: splash".toList,
      ∃ said, Declaration.Says line said
  := by
  have read : parse storm = .ok
      { facts := [⟨"rain", 2⟩, ⟨"wet", 2⟩]
        rules := [⟨some "storm front", ["rain"], ["wet -> dry", "wet"], 3⟩]
        echoes := [⟨"wet", 7, "splash", 4⟩, ⟨"x3", 1, "", 5⟩] } := by
    decide +kernel
  have refused : ¬ (parse "echo wet x4294967296: splash").isOk = true := by
    decide +kernel
  obtain ⟨accepted, -⟩ := parse_eq_ok_iff storm
  obtain ⟨accepted', -⟩ := parse_eq_ok_iff "echo wet x4294967296: splash"
  refine ⟨read, accepted.mp ⟨_, read⟩, ?_⟩
  intro all
  obtain ⟨b, read'⟩ := accepted'.mpr all
  rw [read'] at refused
  apply refused rfl

/-- A fact is declared behind so many empty lines. -/
def late (count : Nat) : String :=
  .ofList (List.replicate count '\n' ++ "facts: a".toList)

theorem lines_late (count : Nat) :
  Text.lines (late count).toList = List.replicate count [] ++ ["facts: a".toList]
  := by
  rw [late, String.toList_ofList]
  induction count with
  | zero => decide
  | succ count ih => rw [List.replicate_succ, List.cons_append, Text.lines, ih, List.replicate_succ,
      List.cons_append]

theorem readLines_replicate (b : Rulebase) (line count : Nat) :
  b.readLines line (List.replicate count []) = .ok b
  := by
  induction count generalizing line with
  | zero => rfl
  | succ count ih => exact ih (line + 1)

theorem parse_late (count : Nat) :
  parse (late count) = .ok { facts := [⟨"a", lineNumber (1 + count)⟩] }
  := by
  have read : Declaration.readLine "facts: a".toList = .ok (some (.facts [['a']])) := by
    decide +kernel
  rw [parse, lines_late, readLines_append, readLines_replicate, List.length_replicate]
  change readLines {} (1 + count) ["facts: a".toList] = _
  rw [readLines, read]
  rfl

/-- A fact that is declared behind 2 ^ 32 lines is not noted with the number of its line. -/
theorem not_numbered_late :
  (Text.lines (late (2 ^ 32)).toList)[2 ^ 32]? = some "facts: a".toList
    ∧ Declaration.Says "facts: a".toList (some (.facts [['a']]))
    ∧ parse (late (2 ^ 32)) = .ok { facts := [⟨"a", 2 ^ 32 - 1⟩] }
    ∧ parse (late (2 ^ 32)) ≠ .ok { facts := [⟨"a", 2 ^ 32 + 1⟩] }
  := by
  have read := parse_late (2 ^ 32)
  have number : lineNumber (1 + 2 ^ 32) = 2 ^ 32 - 1 := by decide
  rw [number] at read
  refine ⟨?_, ?_, read, ?_⟩
  · rw [lines_late, List.getElem?_append_right (by rw [List.length_replicate]),
      List.length_replicate, Nat.sub_self]
    rfl
  · apply Declaration.readLine_eq_ok_iff.mp
    decide +kernel
  · rw [read]
    decide

end Rulebase

end ForwardChaining
