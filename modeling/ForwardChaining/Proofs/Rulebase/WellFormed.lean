import ForwardChaining.Rulebase.Parser
import ForwardChaining.Proofs.Text.Splitting

/-!
# Well-formed rulebases

What a text can declare.  Names, labels and messages stand on one line and are trimmed, names
and labels are not empty, and none holds what its directive would split it at.  A rulebase is
well-formed if its declarations are, and every rulebase that is read from a text is
(`Rulebase.wellFormed_of_parse`).
-/

namespace ForwardChaining

/-! ### Entries -/

/-- A trimmed text on one line. -/
structure Text.IsEntry (cs : List Char) : Prop where
  trimmed : trim cs = cs
  single : '\n' ∉ cs

/-- An entry that is not empty. -/
structure Text.IsName (cs : List Char) : Prop extends IsEntry cs where
  nonempty : cs ≠ []

instance (cs : List Char) : Decidable (Text.IsEntry cs) :=
  decidable_of_iff (Text.trim cs = cs ∧ '\n' ∉ cs)
    ⟨fun h => ⟨h.1, h.2⟩, fun h => ⟨h.trimmed, h.single⟩⟩

instance (cs : List Char) : Decidable (Text.IsName cs) :=
  decidable_of_iff (Text.IsEntry cs ∧ cs ≠ []) ⟨fun h => ⟨h.1, h.2⟩, fun h => ⟨h.1, h.nonempty⟩⟩

theorem Text.isEntry_trim {cs : List Char} (single : '\n' ∉ cs) :
  IsEntry (trim cs)
  := by
  apply IsEntry.mk (trim_trim cs)
  intro member
  apply single ((trim_isInfix cs).subset member)

/-! ### Results that come out of others -/

theorem exists_of_map_eq_ok {ε α β : Type} {f : α → β} {x : Except ε α} {y : β}
    (result : f <$> x = .ok y) :
  ∃ a, x = .ok a ∧ f a = y
  := by
  cases x with
  | error => cases result
  | ok a =>
    cases result
    use a

theorem exists_of_bind_eq_ok {ε α β : Type} {f : α → Except ε β} {x : Except ε α} {y : β}
    (result : x >>= f = .ok y) :
  ∃ a, x = .ok a ∧ f a = .ok y
  := by
  cases x with
  | error => cases result
  | ok a => use a, rfl, result

namespace Declaration

/-! ### Well-formed declarations -/

/-- A declaration that a line can make. -/
inductive WellFormed : Declaration → Prop where
  | facts {names : List (List Char)} (names_ok : ∀ name ∈ names, Text.IsName name ∧ ',' ∉ name) :
      WellFormed (.facts names)
  | inputs {names : List (List Char)} (names_ok : ∀ name ∈ names, Text.IsName name ∧ ',' ∉ name) :
      WellFormed (.inputs names)
  | rule {label : Option (List Char)} {conditions conclusions : List (List Char)}
      (label_ok : ∀ name ∈ label, Text.IsName name ∧ ':' ∉ name)
      (conditions_ok : ∀ name ∈ conditions,
        Text.IsName name ∧ '&' ∉ name ∧ ¬ Text.arrow <:+: name)
      (conclusions_ok : ∀ name ∈ conclusions, Text.IsName name ∧ '&' ∉ name)
      (concludes : conclusions ≠ []) :
      WellFormed (.rule label conditions conclusions)
  | echo {fact message : List Char} {repeatCount : Nat}
      (fact_ok : Text.IsName fact ∧ ':' ∉ fact) (small : repeatCount < Text.limit32)
      (message_ok : Text.IsEntry message) :
      WellFormed (.echo fact repeatCount message)

theorem wellFormed_facts_iff {names : List (List Char)} :
  (facts names).WellFormed ↔ ∀ name ∈ names, Text.IsName name ∧ ',' ∉ name
  := by
  constructor
  · intro d_ok
    cases d_ok with
    | facts names_ok => apply names_ok
  · apply WellFormed.facts

theorem wellFormed_inputs_iff {names : List (List Char)} :
  (inputs names).WellFormed ↔ ∀ name ∈ names, Text.IsName name ∧ ',' ∉ name
  := by
  constructor
  · intro d_ok
    cases d_ok with
    | inputs names_ok => apply names_ok
  · apply WellFormed.inputs

theorem wellFormed_rule_iff {label : Option (List Char)}
    {conditions conclusions : List (List Char)} :
  (rule label conditions conclusions).WellFormed
    ↔ (∀ name ∈ label, Text.IsName name ∧ ':' ∉ name)
      ∧ (∀ name ∈ conditions, Text.IsName name ∧ '&' ∉ name ∧ ¬ Text.arrow <:+: name)
      ∧ (∀ name ∈ conclusions, Text.IsName name ∧ '&' ∉ name) ∧ conclusions ≠ []
  := by
  constructor
  · intro d_ok
    cases d_ok with
    | rule label_ok conditions_ok conclusions_ok concludes =>
      apply And.intro label_ok (And.intro conditions_ok (And.intro conclusions_ok concludes))
  · rintro ⟨label_ok, conditions_ok, conclusions_ok, concludes⟩
    apply WellFormed.rule label_ok conditions_ok conclusions_ok concludes

theorem wellFormed_echo_iff {fact message : List Char} {repeatCount : Nat} :
  (echo fact repeatCount message).WellFormed
    ↔ (Text.IsName fact ∧ ':' ∉ fact) ∧ repeatCount < Text.limit32 ∧ Text.IsEntry message
  := by
  constructor
  · intro d_ok
    cases d_ok with
    | echo fact_ok small message_ok => apply And.intro fact_ok (And.intro small message_ok)
  · rintro ⟨fact_ok, small, message_ok⟩
    apply WellFormed.echo fact_ok small message_ok

instance : (d : Declaration) → Decidable d.WellFormed
  | facts _ => decidable_of_iff' _ wellFormed_facts_iff
  | inputs _ => decidable_of_iff' _ wellFormed_inputs_iff
  | rule _ _ _ => decidable_of_iff' _ wellFormed_rule_iff
  | echo _ _ _ => decidable_of_iff' _ wellFormed_echo_iff

variable {d : Declaration} {separator : Char}
  {list body head argument message line : List Char} {names : List (List Char)}
  {label : Option (List Char)}

/-! ### What is read from a line -/

theorem names_of_readNames (single : '\n' ∉ list) (read : readNames separator list = .ok names) :
  ∀ name ∈ names, (Text.IsName name ∧ separator ∉ name) ∧ name <:+: list
  := by
  rw [readNames] at read
  split at read
  · cases read
    apply List.forall_mem_nil
  · dsimp only at read
    split at read
    · cases read
    · rename_i noneEmpty
      cases read
      intro name member
      obtain ⟨piece, among, rfl⟩ := List.mem_map.mp member
      obtain ⟨part, free⟩ := Text.parts_of_mem_splitOn among
      have inPiece := Text.trim_isInfix piece
      have inList := inPiece.trans (part.trans (Text.trim_isInfix list))
      refine ⟨⟨⟨⟨Text.trim_trim piece, ?single⟩, ?nonempty⟩, ?free⟩, inList⟩
      case single =>
        intro inName
        apply single (inList.subset inName)
      case nonempty =>
        intro empty
        apply noneEmpty
        rw [List.any_eq_true]
        use Text.trim piece, member
        rw [empty, List.isEmpty_nil]
      case free =>
        intro inName
        apply free (inPiece.subset inName)

theorem wellFormed_of_readRule (single : '\n' ∉ body)
    (label_ok : ∀ name ∈ label, Text.IsName name ∧ ':' ∉ name)
    (read : readRule label body = .ok d) :
  d.WellFormed
  := by
  rw [readRule] at read
  split at read
  · cases read
  · rename_i left right split
    obtain ⟨rfl, free⟩ := Text.parts_of_splitArrow? split
    simp only [List.mem_append, List.mem_cons, not_or] at single
    obtain ⟨singleLeft, -, -, singleRight⟩ := single
    obtain ⟨conditions, readLeft, read⟩ := exists_of_bind_eq_ok read
    obtain ⟨conclusions, readRight, read⟩ := exists_of_bind_eq_ok read
    split at read
    · cases read
    · rename_i nonempty
      cases read
      constructor
      · apply label_ok
      · intro name member
        obtain ⟨⟨name_ok, noAnd⟩, part⟩ := names_of_readNames singleLeft readLeft name member
        apply And.intro name_ok (And.intro noAnd _)
        intro inName
        apply free (inName.trans part)
      · intro name member
        apply (names_of_readNames singleRight readRight name member).1
      · rw [Bool.not_eq_true, List.isEmpty_eq_false_iff] at nonempty
        apply nonempty

theorem lt_of_readNat? {limit n : Nat} {cs : List Char} (read : Text.readNat? limit cs = some n) :
  n < limit
  := by
  obtain ⟨-, below⟩ := Option.filter_eq_some_iff.mp read
  apply of_decide_eq_true below

theorem wellFormed_of_readEcho (argument_ok : Text.IsName argument) (free : ':' ∉ argument)
    (message_ok : Text.IsEntry message) (read : readEcho argument message = .ok d) :
  d.WellFormed
  := by
  have whole : (Declaration.echo argument 1 message).WellFormed := by
    apply WellFormed.echo (And.intro argument_ok free) (by decide) message_ok
  rw [readEcho] at read
  split at read
  · rename_i fact count split
    obtain ⟨c, rfl, blank⟩ := Text.parts_of_splitLast? split
    have part : Text.trim fact <:+: fact ++ c :: count :=
      (Text.trim_isInfix fact).trans (List.prefix_append fact _).isInfix
    have nonempty := Text.trim_before_ne_nil argument_ok.trimmed blank
    split at read
    · split at read
      · rename_i n numeral
        cases read
        refine .echo ⟨⟨⟨Text.trim_trim fact, ?single⟩, nonempty⟩, ?free⟩
          (lt_of_readNat? numeral) message_ok
        case single =>
          intro inFact
          apply argument_ok.single (part.subset inFact)
        case free =>
          intro inFact
          apply free (part.subset inFact)
      · cases read
    · cases read
      apply whole
  · cases read
    apply whole

/-- The argument of a directive is a name, unless there is none. -/
theorem isName_of_readHead {keyword : List Char} (head_ok : Text.IsEntry head)
    (read : readHead head = (keyword, some argument)) :
  Text.IsName argument ∧ argument <:+: head
  := by
  rw [readHead] at read
  split at read
  · rename_i rest split
    cases read
    obtain ⟨c, rfl, blank, -⟩ := Text.parts_of_splitFirst? split
    have part : Text.trim rest <:+: keyword ++ c :: rest := by
      apply (Text.trim_isInfix rest).trans
      apply ((List.suffix_cons c rest).trans (List.suffix_append keyword _)).isInfix
    have nonempty := Text.trim_after_ne_nil head_ok.trimmed blank
    refine ⟨⟨⟨Text.trim_trim rest, ?single⟩, nonempty⟩, part⟩
    intro inArgument
    apply head_ok.single (part.subset inArgument)
  · cases read

theorem wellFormed_of_readDirective (head_ok : Text.IsEntry head) (free : ':' ∉ head)
    (body_ok : Text.IsEntry body) (read : readDirective head body = .ok d) :
  d.WellFormed
  := by
  rw [readDirective] at read
  cases keyed : readHead head with
  | mk keyword argument =>
    simp only [keyed] at read
    have argument_ok : ∀ name ∈ argument, Text.IsName name ∧ ':' ∉ name := by
      rintro name rfl
      obtain ⟨name_ok, part⟩ := isName_of_readHead head_ok keyed
      apply And.intro name_ok
      intro inName
      apply free (part.subset inName)
    split at read
    -- the two lists of names, a rule and an echo; every other directive is an error
    · obtain ⟨names, readBody, rfl⟩ := exists_of_map_eq_ok read
      constructor
      intro name member
      apply (names_of_readNames body_ok.single readBody name member).1
    · obtain ⟨names, readBody, rfl⟩ := exists_of_map_eq_ok read
      constructor
      intro name member
      apply (names_of_readNames body_ok.single readBody name member).1
    · apply wellFormed_of_readRule body_ok.single _ read
      intro name label
      apply argument_ok name (Option.mem_filter_iff.mp label).1
    · obtain ⟨name_ok, free⟩ := argument_ok _ rfl
      apply wellFormed_of_readEcho name_ok free body_ok read
    all_goals cases read

theorem wellFormed_of_readLine (single : '\n' ∉ line) (read : readLine line = .ok (some d)) :
  d.WellFormed
  := by
  dsimp only [readLine] at read
  split at read
  · cases read
  · split at read
    · cases read
    · rename_i head body split
      have single : '\n' ∉ Text.trim line := (Text.isEntry_trim single).single
      obtain ⟨c, parts, -, free⟩ := Text.parts_of_splitFirst? split
      rw [parts, List.mem_append, List.mem_cons, not_or, not_or] at single
      obtain ⟨singleHead, -, singleBody⟩ := single
      obtain ⟨_, readParts, same⟩ := exists_of_map_eq_ok read
      cases same
      apply wellFormed_of_readDirective (Text.isEntry_trim singleHead) _
        (Text.isEntry_trim singleBody) readParts
      intro inHead
      have colon := free ':' ((Text.trim_isInfix head).subset inHead)
      cases colon

end Declaration

/-! ### What is read from a text -/

/-- What a rule declares, wherever it stands. -/
def RuleDeclaration.declaration (r : RuleDeclaration) : Declaration :=
  .rule (r.label.map String.toList) (r.conditions.map String.toList)
    (r.conclusions.map String.toList)

/-- What an echo declares, wherever it stands. -/
def EchoDeclaration.declaration (e : EchoDeclaration) : Declaration :=
  .echo e.fact.toList e.repeatCount e.message.toList

namespace Rulebase

/-- What a rulebase declares, in the order of its canonical text. -/
def declarations (b : Rulebase) : List Declaration :=
  [.facts (b.facts.map (·.name.toList)), .inputs (b.inputs.map (·.name.toList))]
    ++ b.rules.map (·.declaration) ++ b.echoes.map (·.declaration)

/-- A rulebase whose names, labels and messages can all be written on lines. -/
def WellFormed (b : Rulebase) : Prop :=
  ∀ d ∈ b.declarations, d.WellFormed

instance (b : Rulebase) : Decidable b.WellFormed :=
  inferInstanceAs (Decidable (∀ d ∈ b.declarations, d.WellFormed))

variable {b b' : Rulebase} {d : Declaration} {line : Nat} {texts : List (List Char)}

theorem wellFormed_iff :
  b.WellFormed
    ↔ (∀ d ∈ b.facts, Text.IsName d.name.toList ∧ ',' ∉ d.name.toList)
      ∧ (∀ d ∈ b.inputs, Text.IsName d.name.toList ∧ ',' ∉ d.name.toList)
      ∧ (∀ r ∈ b.rules, r.declaration.WellFormed)
      ∧ (∀ e ∈ b.echoes, e.declaration.WellFormed)
  := by
  simp [WellFormed, declarations, Declaration.wellFormed_facts_iff,
    Declaration.wellFormed_inputs_iff, or_imp, forall_and, and_assoc]

theorem wellFormed_empty :
  ({} : Rulebase).WellFormed
  := by
  simp [wellFormed_iff]

theorem wellFormed_add (b_ok : b.WellFormed) (d_ok : d.WellFormed) :
  (b.add line d).WellFormed
  := by
  rw [wellFormed_iff] at b_ok ⊢
  obtain ⟨facts_ok, inputs_ok, rules_ok, echoes_ok⟩ := b_ok
  cases d with
  | facts names =>
    refine ⟨?_, inputs_ok, rules_ok, echoes_ok⟩
    cases d_ok with
    | facts names_ok =>
      apply List.forall_mem_append.mpr ⟨facts_ok, _⟩
      simpa [List.forall_mem_map] using names_ok
  | inputs names =>
    refine ⟨facts_ok, ?_, rules_ok, echoes_ok⟩
    cases d_ok with
    | inputs names_ok =>
      apply List.forall_mem_append.mpr ⟨inputs_ok, _⟩
      simpa [List.forall_mem_map] using names_ok
  | rule label conditions conclusions =>
    refine ⟨facts_ok, inputs_ok, ?_, echoes_ok⟩
    apply List.forall_mem_append.mpr ⟨rules_ok, _⟩
    simpa [RuleDeclaration.declaration, Function.comp_def] using d_ok
  | echo fact count message =>
    refine ⟨facts_ok, inputs_ok, rules_ok, ?_⟩
    apply List.forall_mem_append.mpr ⟨echoes_ok, _⟩
    simpa [EchoDeclaration.declaration] using d_ok

theorem wellFormed_of_readLines (b_ok : b.WellFormed) (single : ∀ text ∈ texts, '\n' ∉ text)
    (read : b.readLines line texts = .ok b') :
  b'.WellFormed
  := by
  induction texts generalizing b line with
  | nil =>
    cases read
    apply b_ok
  | cons text rest ih =>
    rw [List.forall_mem_cons] at single
    rw [readLines] at read
    split at read
    · cases read
    · apply ih b_ok single.2 read
    · rename_i d readText
      apply ih (wellFormed_add b_ok (Declaration.wellFormed_of_readLine single.1 readText))
        single.2 read

/-- Every rulebase that is read from a text is well-formed. -/
theorem wellFormed_of_parse {text : String} (read : parse text = .ok b) :
  b.WellFormed
  := wellFormed_of_readLines wellFormed_empty (Text.newline_not_mem_lines text.toList) read

end Rulebase

end ForwardChaining
