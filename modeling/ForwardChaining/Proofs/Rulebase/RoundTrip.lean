import ForwardChaining.Rulebase.Printer
import ForwardChaining.Proofs.Rulebase.WellFormed
import ForwardChaining.Proofs.Text.Digits

/-!
# Reading what was written

The canonical text of a well-formed rulebase declares what the rulebase declares, in the same
order (`Rulebase.parse_render_iff_wellFormed`).  A line of that text is a directive, a colon
and a body, and each is read on its own: names that are joined come apart at their separators,
whatever other delimiters they hold (`readNames_intercalate`), the conditions of a rule end at
its first arrow (`readRule_body`), and the count of an echo is its last word
(`readEcho_argument`).
-/

namespace ForwardChaining

variable {separator : Char} {lead left right trail : List Char} {names : List (List Char)}

namespace Text

/-! ### Repeat counts -/

theorem isBlank_of_isDigit {c : Char} (digit : isDigit c = true) :
  isBlank c = false
  := by
  simp only [isDigit, Bool.and_eq_true, decide_eq_true_eq, Char.le_def,
    UInt32.le_iff_toNat_le] at digit
  have low : 48 ≤ c.toNat := digit.1
  have high : c.toNat ≤ 57 := digit.2
  simp [isBlank]
  omega

/-- A number below a limit is read back from its numeral. -/
theorem readNat?_toString {limit n : Nat} (below : n < limit) :
  readNat? limit (toString n).toList = some n
  := by
  rw [readNat?_of_digits (toList_toString_ne_nil n) (all_isDigit_toString n),
    digitsValue_toString, if_pos below]

theorem isBlank_count (n : Nat) :
  ∀ c ∈ 'x' :: (toString n).toList, isBlank c = false
  := by
  rw [List.forall_mem_cons]
  apply And.intro (by decide)
  intro c member
  apply isBlank_of_isDigit (all_isDigit_toString n c member)

/-- A repeat token is a name. -/
theorem isName_count (n : Nat) :
  IsName ('x' :: (toString n).toList)
  := by
  have visible := isBlank_count n
  refine ⟨⟨trim_eq_self_iff.mpr ⟨?first, ?last⟩, ?single⟩, List.cons_ne_nil _ _⟩
  case first =>
    intro c first
    apply visible c (List.mem_of_mem_head? first)
  case last =>
    intro c last
    apply visible c (List.mem_of_mem_getLast? last)
  case single =>
    intro member
    cases visible '\n' member

/-! ### Joined names -/

theorem isBlank_space :
  ∀ c ∈ [' '], isBlank c = true
  := List.forall_mem_singleton.mpr rfl

/-- What begins and ends with names, on one line, is a name. -/
theorem IsName.append {first last : List Char} (first_ok : IsName first) (last_ok : IsName last)
    {between : List Char} (single : '\n' ∉ between) :
  IsName (first ++ between ++ last)
  := by
  refine ⟨⟨?trimmed, ?single⟩, ?nonempty⟩
  case trimmed =>
    apply trim_append_append first_ok.trimmed first_ok.nonempty last_ok.trimmed last_ok.nonempty
  case single =>
    rw [List.mem_append, List.mem_append, not_or, not_or]
    apply And.intro (And.intro first_ok.single single) last_ok.single
  case nonempty => apply List.append_ne_nil_of_right_ne_nil _ last_ok.nonempty

theorem IsName.append_space {first last : List Char} (first_ok : IsName first)
    (last_ok : IsName last) :
  IsName (first ++ ' ' :: last)
  := by
  have spaced : IsName (first ++ [' '] ++ last) := first_ok.append last_ok (by decide)
  rw [List.append_assoc] at spaced
  apply spaced

/-- Names that are joined are a name, if there are any. -/
theorem isName_intercalate {glue : List Char} (single : '\n' ∉ glue) {names : List (List Char)}
    (names_ok : ∀ name ∈ names, IsName name) (some : names ≠ []) :
  IsName (glue.intercalate names)
  := by
  induction names with
  | nil => contradiction
  | cons name rest ih =>
    rw [List.forall_mem_cons] at names_ok
    cases rest with
    | nil =>
      rw [List.intercalate_singleton]
      apply names_ok.1
    | cons next rest =>
      rw [List.intercalate_cons_cons]
      apply names_ok.1.append (ih names_ok.2 (List.cons_ne_nil next rest)) single

theorem isEntry_intercalate {glue : List Char} (single : '\n' ∉ glue) {names : List (List Char)}
    (names_ok : ∀ name ∈ names, IsName name) :
  IsEntry (glue.intercalate names)
  := by
  by_cases none : names = []
  · rw [none, List.intercalate_nil]
    decide
  · apply (isName_intercalate single names_ok none).toIsEntry

/-- No arrow lies in joined names, if there is none in a name. -/
theorem not_arrow_infix_intercalate {names : List (List Char)}
    (free : ∀ name ∈ names, ¬ arrow <:+: name) :
  ¬ arrow <:+: [' ', '&', ' '].intercalate names
  := by
  induction names with
  | nil => simp
  | cons name rest ih =>
    rw [List.forall_mem_cons] at free
    cases rest with
    | nil =>
      rw [List.intercalate_singleton]
      apply free.1
    | cons next rest =>
      rw [List.intercalate_cons_cons, List.append_assoc]
      apply not_arrow_infix_append_cons (by decide) free.1
      apply not_arrow_infix_cons (by decide)
      apply not_arrow_infix_cons (by decide)
      apply ih free.2

end Text

namespace Declaration

variable {d : Declaration} {fact message : List Char} {label : Option (List Char)}
  {conditions conclusions : List (List Char)}

theorem readNames_trim (separator : Char) (list : List Char) :
  readNames separator (Text.trim list) = readNames separator list
  := by
  rw [readNames, readNames, Text.trim_trim]

theorem readNames_padded (blankLead : ∀ c ∈ lead, Text.isBlank c = true)
    (blankTrail : ∀ c ∈ trail, Text.isBlank c = true) (list : List Char) :
  readNames separator (lead ++ list ++ trail) = readNames separator list
  := by
  rw [← readNames_trim, Text.trim_append_blank blankTrail, Text.trim_blank_append blankLead,
    readNames_trim]

/-- Names are read back that were joined with blank characters around their separator. -/
theorem readNames_intercalate (left right : List Char)
    (names_ok : ∀ name ∈ names, Text.IsName name ∧ separator ∉ name)
    (visible : Text.isBlank separator = false) (single : '\n' ∉ left ++ separator :: right)
    (blankLeft : ∀ c ∈ left, Text.isBlank c = true)
    (blankRight : ∀ c ∈ right, Text.isBlank c = true) :
  readNames separator ((left ++ separator :: right).intercalate names) = .ok names
  := by
  rw [readNames]
  by_cases none : names = []
  · rw [none]
    rfl
  · have isName (name : List Char) (member : name ∈ names) : Text.IsName name :=
      (names_ok name member).1
    have joined_ok := Text.isName_intercalate single isName none
    have noneEmpty : ¬ names.any (·.isEmpty) = true := by
      rw [List.any_eq_true]
      rintro ⟨name, member, empty⟩
      apply (isName name member).nonempty (List.isEmpty_iff.mp empty)
    have apart : (Text.splitOn separator ([] ++ (left ++ separator :: right).intercalate names)).map
        Text.trim = names := by
      apply Text.map_trim_splitOn none _ _ _ blankLeft blankRight visible
      · intro name member
        apply (isName name member).trimmed
      · intro name member
        apply (names_ok name member).2
      · apply List.forall_mem_nil
    rw [List.nil_append] at apart
    rw [joined_ok.trimmed, apart, if_neg (mt List.isEmpty_iff.mp joined_ok.nonempty)]
    apply if_neg noneEmpty

/-! ### Directives and their bodies -/

/-- The directive of a declaration, as it is written before the colon. -/
def head : Declaration → List Char
  | facts _ => "facts".toList
  | inputs _ => "input".toList
  | rule none _ _ => "rule".toList
  | rule (some label) _ _ => "rule".toList ++ ' ' :: label
  | echo fact count _ => "echo".toList ++ ' ' :: (fact ++ ' ' :: 'x' :: (toString count).toList)

/-- The body of a declaration, as it is written after the colon and a space. -/
def body : Declaration → List Char
  | facts names | inputs names => [',', ' '].intercalate names
  | rule _ conditions conclusions =>
    [' ', '&', ' '].intercalate conditions ++ ' ' :: '-' :: '>' :: ' ' ::
      [' ', '&', ' '].intercalate conclusions
  | echo _ _ message => message

/-- The line of a declaration in the canonical text. -/
def write (d : Declaration) : List Char :=
  d.head ++ ':' :: ' ' :: d.body

/-- A rule is read from the conditions before its first arrow and the conclusions after it. -/
theorem readRule_trim {left right : List Char} (free : ¬ Text.arrow <:+: left)
    (readLeft : readNames '&' left = .ok conditions)
    (readRight : readNames '&' right = .ok conclusions) (concludes : conclusions ≠ []) :
  readRule label (Text.trim (left ++ '-' :: '>' :: right))
    = .ok (.rule label conditions conclusions)
  := by
  -- the body is trimmed at its outer ends, which leaves the arrow where it is
  have free' : ¬ Text.arrow <:+: Text.trimLeft left := by
    intro early
    apply free (early.trans (Text.trimLeft_isSuffix left).isInfix)
  have body : Text.trim (left ++ '-' :: '>' :: right)
      = Text.trimLeft left ++ '-' :: '>' :: Text.trimRight right := by
    rw [Text.trim_append_cons (by decide)]
    apply congrArg (Text.trimLeft left ++ '-' :: ·)
    apply Text.trimRight_append_cons (by decide) []
  rw [readRule, body, Text.splitArrow?_append free']
  simp only
  rw [← readNames_trim, Text.trim_trimLeft, readNames_trim, readLeft]
  rw [← readNames_trim '&' (Text.trimRight right), Text.trim_trimRight, readNames_trim, readRight]
  simp [bind, Except.bind, concludes]

theorem readEcho_argument {count : Nat} (fact_ok : Text.IsName fact)
    (small : count < Text.limit32) :
  readEcho (fact ++ ' ' :: 'x' :: (toString count).toList) message = .ok (.echo fact count message)
  := by
  have token : isRepeat ('x' :: (toString count).toList) = true := by
    rw [isRepeat, List.isEmpty_eq_false_iff.mpr (Text.toList_toString_ne_nil count),
      List.all_eq_true.mpr (Text.all_isDigit_toString count)]
    rfl
  rw [readEcho, Text.splitLast?_append_cons (by decide) (Text.isBlank_count count)]
  simp only [token, if_true, List.drop_one, List.tail_cons, Text.readNat?_toString small,
    fact_ok.trimmed]

/-- The body of a rule is read as the rule, whatever its label. -/
theorem readRule_body (d_ok : (rule label conditions conclusions).WellFormed) :
  readRule label (Text.trim (' ' :: (rule label conditions conclusions).body))
    = .ok (.rule label conditions conclusions)
  := by
  cases d_ok with
  | rule label_ok conditions_ok conclusions_ok concludes =>
    have space := Text.isBlank_space
    have separated (name : List Char) (member : name ∈ conditions) :
        Text.IsName name ∧ '&' ∉ name :=
      And.intro (conditions_ok name member).1 (conditions_ok name member).2.1
    have readLeft : readNames '&' ([' '] ++ [' ', '&', ' '].intercalate conditions ++ [' '])
        = .ok conditions := by
      rw [readNames_padded space space]
      apply readNames_intercalate [' '] [' '] separated (by decide) (by simp) space space
    have readRight : readNames '&' ([' '] ++ [' ', '&', ' '].intercalate conclusions ++ [])
        = .ok conclusions := by
      rw [readNames_padded space (List.forall_mem_nil _)]
      apply readNames_intercalate [' '] [' '] conclusions_ok (by decide) (by simp) space space
    have free : ¬ Text.arrow <:+: [' '] ++ [' ', '&', ' '].intercalate conditions ++ [' '] := by
      apply Text.not_arrow_infix_append_cons (by decide) _ (by decide)
      apply Text.not_arrow_infix_cons (by decide)
      apply Text.not_arrow_infix_intercalate
      intro name member
      apply (conditions_ok name member).2.2
    have read : readRule label _ = _ := readRule_trim free readLeft readRight concludes
    simpa [body] using read

/-- A directive with its body declares what they were written for. -/
theorem readDirective_write (d_ok : d.WellFormed) :
  readDirective d.head (Text.trim (' ' :: d.body)) = .ok d
  := by
  have space := Text.isBlank_space
  have readList {names : List (List Char)}
      (names_ok : ∀ name ∈ names, Text.IsName name ∧ ',' ∉ name) :
      readNames ',' (Text.trim ([' '] ++ [',', ' '].intercalate names)) = .ok names := by
    rw [Text.trim_blank_append space, readNames_trim]
    apply readNames_intercalate [] [' '] names_ok (by decide) (by simp) (by simp) space
  cases d with
  | facts names =>
    change facts <$> readNames ',' (Text.trim ([' '] ++ [',', ' '].intercalate names)) = _
    rw [readList (wellFormed_facts_iff.mp d_ok)]
    rfl
  | inputs names =>
    change inputs <$> readNames ',' (Text.trim ([' '] ++ [',', ' '].intercalate names)) = _
    rw [readList (wellFormed_inputs_iff.mp d_ok)]
    rfl
  | rule label conditions conclusions =>
    obtain ⟨label_ok, -⟩ := wellFormed_rule_iff.mp d_ok
    rw [← readRule_body d_ok]
    cases label with
    | none => rfl
    | some label =>
      obtain ⟨name_ok, -⟩ := label_ok label rfl
      have kept : (some label).filter (!·.isEmpty) = some label := by
        rw [Option.filter_some, List.isEmpty_eq_false_iff.mpr name_ok.nonempty]
        rfl
      change readRule ((some (Text.trim label)).filter (!·.isEmpty)) _ = _
      rw [name_ok.trimmed, kept]
  | echo fact count message =>
    obtain ⟨⟨fact_ok, -⟩, small, message_ok⟩ := wellFormed_echo_iff.mp d_ok
    change readEcho (Text.trim (fact ++ ' ' :: 'x' :: (toString count).toList))
      (Text.trim ([' '] ++ message)) = _
    rw [(fact_ok.append_space (Text.isName_count count)).trimmed, Text.trim_blank_append space,
      message_ok.trimmed]
    apply readEcho_argument fact_ok small

/-- A line is read as a directive and a body if a name without a colon stands before its first
colon. -/
theorem readLine_append {head : List Char} (head_ok : Text.IsName head) (free : ':' ∉ head)
    (uncommented : head.head? ≠ some '#') (body : List Char) :
  readLine (head ++ ':' :: body) = some <$> readDirective head (Text.trim body)
  := by
  have line : Text.trim (head ++ ':' :: body) = head ++ ':' :: Text.trimRight body := by
    rw [Text.trim_append_cons (by decide), Text.trimLeft_eq_self head_ok.trimmed]
  have nonempty : head ++ ':' :: Text.trimRight body ≠ [] :=
    List.append_ne_nil_of_left_ne_nil head_ok.nonempty _
  have start : (head ++ ':' :: Text.trimRight body).head? = head.head? :=
    List.head?_append_of_ne_nil head head_ok.nonempty
  have split : Text.splitFirst? (· = ':') (head ++ ':' :: Text.trimRight body)
      = some (head, Text.trimRight body) := by
    apply Text.splitFirst?_append_cons _ (by decide)
    intro c member
    apply decide_eq_false
    rintro rfl
    apply free member
  simp only [readLine, line, split, head_ok.trimmed, Text.trim_trimRight, start, uncommented,
    List.isEmpty_eq_false_iff.mpr nonempty, decide_false, Bool.or_self, Bool.false_eq_true,
    if_false]

/-- A directive is a name without a colon. -/
theorem isName_head (d_ok : d.WellFormed) :
  Text.IsName d.head ∧ ':' ∉ d.head
  := by
  cases d with
  | facts names =>
    have keyword_ok : Text.IsName "facts".toList := by decide
    apply And.intro keyword_ok (by decide : ':' ∉ "facts".toList)
  | inputs names =>
    have keyword_ok : Text.IsName "input".toList := by decide
    apply And.intro keyword_ok (by decide : ':' ∉ "input".toList)
  | rule label conditions conclusions =>
    obtain ⟨label_ok, -⟩ := wellFormed_rule_iff.mp d_ok
    have keyword_ok : Text.IsName "rule".toList := by decide
    cases label with
    | none => apply And.intro keyword_ok (by decide : ':' ∉ "rule".toList)
    | some label =>
      obtain ⟨name_ok, free⟩ := label_ok label rfl
      apply And.intro (keyword_ok.append_space name_ok)
      simp [head, free]
  | echo fact count message =>
    obtain ⟨⟨fact_ok, free⟩, -⟩ := wellFormed_echo_iff.mp d_ok
    have keyword_ok : Text.IsName "echo".toList := by decide
    have argument_ok := fact_ok.append_space (Text.isName_count count)
    have freeCount : ':' ∉ (toString count).toList := by
      intro member
      cases Text.all_isDigit_toString count ':' member
    apply And.intro (keyword_ok.append_space argument_ok)
    rw [head]
    simp only [List.mem_append, List.mem_cons, free, freeCount]
    decide

theorem head?_head (d : Declaration) :
  d.head.head? ≠ some '#'
  := by
  cases d with
  | facts | inputs | echo => simp [head]
  | rule label => cases label <;> simp [head]

/-- The line of a declaration is read as the declaration. -/
theorem readLine_write (d_ok : d.WellFormed) :
  readLine d.write = .ok (some d)
  := by
  obtain ⟨head_ok, free⟩ := isName_head d_ok
  rw [write, readLine_append head_ok free (head?_head d), readDirective_write d_ok]
  rfl

/-- A body is on one line and does not end with a blank character. -/
theorem body_ok (d_ok : d.WellFormed) :
  '\n' ∉ d.body ∧ ∀ c ∈ d.body.getLast?, Text.isBlank c = false
  := by
  have of_entry {cs : List Char} (cs_ok : Text.IsEntry cs) :
      '\n' ∉ cs ∧ ∀ c ∈ cs.getLast?, Text.isBlank c = false :=
    And.intro cs_ok.single (Text.trim_eq_self_iff.mp cs_ok.trimmed).2
  cases d_ok with
  | facts names_ok | inputs names_ok =>
    apply of_entry
    apply Text.isEntry_intercalate (by decide)
    intro name member
    apply (names_ok name member).1
  | @rule label conditions conclusions _ conditions_ok conclusions_ok concludes =>
    have left : Text.IsEntry ([' ', '&', ' '].intercalate conditions) := by
      apply Text.isEntry_intercalate (by decide)
      intro name member
      apply (conditions_ok name member).1
    have right : Text.IsName ([' ', '&', ' '].intercalate conclusions) := by
      apply Text.isName_intercalate (by decide) _ concludes
      intro name member
      apply (conclusions_ok name member).1
    have parts : (rule label conditions conclusions).body
        = ([' ', '&', ' '].intercalate conditions ++ [' ', '-', '>', ' '])
          ++ [' ', '&', ' '].intercalate conclusions := by simp [body]
    rw [parts]
    constructor
    · simp [left.single, right.single]
    · rw [List.getLast?_append_of_ne_nil _ right.nonempty]
      apply (of_entry right.toIsEntry).2
  | echo _ _ message_ok => apply of_entry message_ok

theorem newline_not_mem_write (d_ok : d.WellFormed) :
  '\n' ∉ d.write
  := by
  simp [write, (isName_head d_ok).1.single, (body_ok d_ok).1]

theorem getLast?_write (d_ok : d.WellFormed) :
  d.write.getLast? ≠ some '\r'
  := by
  intro last
  have parts : d.write = (d.head ++ [':', ' ']) ++ d.body := by simp [write]
  rw [parts] at last
  cases ending : d.body.getLast? with
  | none =>
    rw [List.getLast?_eq_none_iff] at ending
    simp [ending] at last
  | some c =>
    rw [List.getLast?_append, ending, Option.some_or] at last
    cases last
    cases (body_ok d_ok).2 '\r' ending

end Declaration

/-! ### Texts -/

namespace Rulebase

variable {b : Rulebase} {d : Declaration} {ds : List Declaration} {line : Nat}

/-- A rulebase without its source and the numbers of its lines. -/
def withoutPlaces (b : Rulebase) : Rulebase where
  facts := b.facts.map fun d => { d with line := 0 }
  inputs := b.inputs.map fun d => { d with line := 0 }
  rules := b.rules.map fun r => { r with line := 0 }
  echoes := b.echoes.map fun e => { e with line := 0 }

/-- The rulebase with what the lines from the given one on declare. -/
def addAll (b : Rulebase) (line : Nat) : List Declaration → Rulebase
  | [] => b
  | d :: rest => (b.add (lineNumber line) d).addAll (line + 1) rest

theorem withoutPlaces_add :
  (b.add line d).withoutPlaces = b.withoutPlaces.add 0 d
  := by
  cases d <;> simp [withoutPlaces, add]

theorem withoutPlaces_addAll :
  (b.addAll line ds).withoutPlaces = ds.foldl (fun b d => b.add 0 d) b.withoutPlaces
  := by
  induction ds generalizing b line with
  | nil => rfl
  | cons d rest ih => rw [addAll, ih, withoutPlaces_add, List.foldl_cons]

theorem foldl_add_rules (rules : List RuleDeclaration) :
  (rules.map (·.declaration)).foldl (fun b d => b.add 0 d) b
    = { b with rules := b.rules ++ rules.map fun r => { r with line := 0 } }
  := by
  induction rules generalizing b with
  | nil => simp
  | cons r rest ih =>
    rw [List.map_cons, List.foldl_cons, ih]
    simp [RuleDeclaration.declaration, add, Function.comp_def]

theorem foldl_add_echoes (echoes : List EchoDeclaration) :
  (echoes.map (·.declaration)).foldl (fun b d => b.add 0 d) b
    = { b with echoes := b.echoes ++ echoes.map fun e => { e with line := 0 } }
  := by
  induction echoes generalizing b with
  | nil => simp
  | cons e rest ih =>
    rw [List.map_cons, List.foldl_cons, ih]
    simp [EchoDeclaration.declaration, add]

/-- The declarations of a rulebase make up the rulebase. -/
theorem addAll_declarations (b : Rulebase) :
  (({} : Rulebase).addAll line b.declarations).withoutPlaces = b.withoutPlaces
  := by
  rw [withoutPlaces_addAll, declarations, List.foldl_append, List.foldl_append, foldl_add_echoes,
    foldl_add_rules]
  simp [withoutPlaces, add]

theorem toList_renderRule (r : RuleDeclaration) :
  r.render.toList = r.declaration.write
  := by
  cases label : r.label <;>
    simp [RuleDeclaration.render, RuleDeclaration.declaration, Declaration.write, Declaration.head,
      Declaration.body, label]

theorem toList_renderEcho (e : EchoDeclaration) :
  e.render.toList = e.declaration.write
  := by
  simp [EchoDeclaration.render, EchoDeclaration.declaration, Declaration.write, Declaration.head,
    Declaration.body]

theorem toList_renderLines (b : Rulebase) :
  b.renderLines.map (·.toList) = b.declarations.map (·.write)
  := by
  simp [renderLines, declarations, toList_renderRule, toList_renderEcho, Declaration.write,
    Declaration.head, Declaration.body, Function.comp_def]

/-- The lines of the canonical text are those of the declarations. -/
theorem lines_render (b_ok : b.WellFormed) :
  Text.lines b.render.toList = b.declarations.map (·.write)
  := by
  have text : b.render.toList = (b.declarations.map (·.write)).flatMap (· ++ ['\n']) := by
    rw [render, String.toList_join, ← toList_renderLines, List.flatMap_map, List.flatMap_map]
    simp
  rw [text, Text.lines_flatMap]
  · rw [List.forall_mem_map]
    intro d member
    apply Declaration.newline_not_mem_write (b_ok d member)
  · rw [List.forall_mem_map]
    intro d member
    apply Declaration.getLast?_write (b_ok d member)

theorem readLines_write (ds_ok : ∀ d ∈ ds, d.WellFormed) :
  b.readLines line (ds.map (·.write)) = .ok (b.addAll line ds)
  := by
  induction ds generalizing b line with
  | nil => rfl
  | cons d rest ih =>
    rw [List.forall_mem_cons] at ds_ok
    rw [List.map_cons, readLines, Declaration.readLine_write ds_ok.1]
    apply ih ds_ok.2

/-- The canonical text of a well-formed rulebase is read as the rulebase, up to its places. -/
theorem exists_parse_render (b_ok : b.WellFormed) :
  ∃ b', parse b.render = .ok b' ∧ b'.withoutPlaces = b.withoutPlaces
  := by
  use ({} : Rulebase).addAll 1 b.declarations
  rw [parse, lines_render b_ok]
  apply And.intro (readLines_write b_ok) (addAll_declarations b)

theorem wellFormed_withoutPlaces :
  b.withoutPlaces.WellFormed ↔ b.WellFormed
  := by
  have same : b.withoutPlaces.declarations = b.declarations := by
    simp [declarations, withoutPlaces, RuleDeclaration.declaration, EchoDeclaration.declaration,
      Function.comp_def]
  rw [WellFormed, WellFormed, same]

/-- The well-formed rulebases are those that are read from texts: every rulebase that is read is
well-formed, and it is the well-formed ones that are read back from their canonical text, with
the same facts, inputs, rules and echoes in the same order. -/
theorem parse_render_iff_wellFormed :
  (∀ text b, parse text = .ok b → b.WellFormed)
    ∧ ∀ b : Rulebase, b.WellFormed
        ↔ ∃ b', parse b.render = .ok b' ∧ b'.withoutPlaces = b.withoutPlaces
  := by
  constructor
  · intro text b read
    apply wellFormed_of_parse read
  · intro b
    constructor
    · apply exists_parse_render
    · rintro ⟨b', read, same⟩
      rw [← wellFormed_withoutPlaces, ← same, wellFormed_withoutPlaces]
      apply wellFormed_of_parse read

/-- A rulebase whose names hold the delimiters of other directives, end like repeat tokens, and
have parts of an arrow next to the arrow. -/
def tangled : Rulebase where
  facts := [⟨"a: b & c", 3⟩, ⟨"x2", 3⟩]
  inputs := [⟨"# -> x3", 4⟩]
  rules := [⟨some "echo, x3", ["a-", "> b, c: d"], ["e -> f", "-"], 5⟩, ⟨none, [], ["x2"], 6⟩]
  echoes := [⟨"fact x7", 0, "input: g", 1⟩, ⟨"x2", 12, "", 2⟩]

theorem parse_render_tangled :
  tangled.WellFormed
    ∧ ∃ b, parse tangled.render = .ok b ∧ b.withoutPlaces = tangled.withoutPlaces
  := by
  have tangled_ok : tangled.WellFormed := by decide +kernel
  apply And.intro tangled_ok ((parse_render_iff_wellFormed.2 tangled).mp tangled_ok)

end Rulebase

end ForwardChaining
