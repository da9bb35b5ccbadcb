import Mathlib.Tactic.Common
import ForwardChaining.Proofs.Json.Grammar

/-!
# Unambiguity of JSON

A text stands for at most one value (`Json.Denotes.unique`), since a phrase that the characters
begin with is the only one of its kind (`Json.Reads.unique`).
-/

namespace ForwardChaining

namespace Json

/-- Lists that agree up to where a property first fails. -/
theorem append_inj_of_span {P : Char → Prop} {a b x y : List Char} (all : ∀ c ∈ a, P c)
    (all' : ∀ c ∈ b, P c) (ends : ∀ c ∈ x.head?, ¬P c) (ends' : ∀ c ∈ y.head?, ¬P c)
    (same : a ++ x = b ++ y) :
  a = b ∧ x = y
  := by
  induction a generalizing b with
  | nil =>
    cases b with
    | nil => exact ⟨rfl, same⟩
    | cons c b =>
      rw [List.nil_append] at same
      rw [same] at ends
      exact absurd (all' c List.mem_cons_self) (ends c rfl)
  | cons c a ih =>
    cases b with
    | nil =>
      rw [List.nil_append] at same
      rw [← same] at ends'
      exact absurd (all c List.mem_cons_self) (ends' c rfl)
    | cons d b =>
      rw [List.cons_append, List.cons_append] at same
      obtain ⟨rfl, rest⟩ := List.cons_eq_cons.mp same
      obtain ⟨rfl, rfl⟩ := ih (List.forall_mem_cons.mp all).2 (List.forall_mem_cons.mp all').2 rest
      exact ⟨rfl, rfl⟩

/-! ### Numerals -/

namespace Numeral

variable {n m : Numeral} {c : Char}

theorem isPart_of_isDigit (digit : Text.isDigit c = true) :
  IsPart c
  := Or.inl digit

theorem head_exponentText (n : Numeral) :
  ∀ c ∈ n.exponentText.head?, c = 'e' ∨ c = 'E'
  := by
  intro c first
  unfold exponentText at first
  cases exponent : n.exponent with
  | none =>
    rw [exponent] at first
    cases first
  | some e =>
    rw [exponent] at first
    obtain rfl := Option.some.inj first
    exact e.isMark

theorem not_isDigit_head_exponentText (n : Numeral) :
  ∀ c ∈ n.exponentText.head?, ¬Text.isDigit c = true
  := by
  intro c first
  obtain rfl | rfl := n.head_exponentText c first
  · decide
  · decide

/-- What follows the digits before the point begins with none. -/
theorem not_isDigit_head_fractionText (n : Numeral) :
  ∀ c ∈ (n.fractionText ++ n.exponentText).head?, ¬Text.isDigit c = true
  := by
  unfold fractionText
  split
  · exact n.not_isDigit_head_exponentText
  · intro c first
    obtain rfl := Option.some.inj first
    decide

theorem isPart_of_mem_text (member : c ∈ n.text) :
  IsPart c
  := by
  unfold text at member
  simp only [List.mem_append] at member
  obtain sign | whole | fraction | exponent := member
  · unfold signText at sign
    split at sign
    · right
      rw [List.mem_singleton.mp sign]
      decide
    · cases sign
  · exact isPart_of_isDigit (n.allDigits c whole)
  · unfold fractionText at fraction
    split at fraction
    · cases fraction
    · obtain rfl | digit := List.mem_cons.mp fraction
      · right
        decide
      · exact isPart_of_isDigit (n.fractionDigits c digit)
  · unfold exponentText at exponent
    cases some : n.exponent with
    | none =>
      rw [some] at exponent
      cases exponent
    | some e =>
      rw [some] at exponent
      obtain rfl | after := List.mem_cons.mp exponent
      · right
        obtain lower | upper := e.isMark
        · rw [lower]
          decide
        · rw [upper]
          decide
      · obtain sign | digit := List.mem_append.mp after
        · right
          obtain none | plus | minus := e.isSign
          · rw [none] at sign
            cases sign
          · rw [plus] at sign
            rw [List.mem_singleton.mp sign]
            decide
          · rw [minus] at sign
            rw [List.mem_singleton.mp sign]
            decide
        · exact isPart_of_isDigit (e.allDigits c digit)

/-- A numeral begins with its sign or with a digit. -/
theorem exists_head_text (n : Numeral) :
  ∃ c l, n.text = c :: l
    ∧ (c = '-' ∧ n.negative = true ∨ Text.isDigit c = true ∧ n.negative = false)
  := by
  unfold text signText
  cases n.negative with
  | true => exact ⟨'-', _, rfl, Or.inl ⟨rfl, rfl⟩⟩
  | false =>
    obtain ⟨c, l, whole⟩ := List.exists_cons_of_ne_nil n.nonempty
    rw [whole]
    refine ⟨c, _, rfl, Or.inr ⟨?_, rfl⟩⟩
    apply n.allDigits
    rw [whole]
    exact List.mem_cons_self

theorem negative_eq_of_text (same : n.text = m.text) :
  n.negative = m.negative
  := by
  obtain ⟨c, l, begins, lead⟩ := n.exists_head_text
  obtain ⟨d, k, begins', lead'⟩ := m.exists_head_text
  rw [begins, begins'] at same
  obtain ⟨rfl, -⟩ := List.cons_eq_cons.mp same
  obtain ⟨rfl, negative⟩ | ⟨digit, negative⟩ := lead
  · obtain ⟨-, negative'⟩ | ⟨digit', -⟩ := lead'
    · rw [negative, negative']
    · cases digit'
  · obtain ⟨rfl, -⟩ | ⟨-, negative'⟩ := lead'
    · cases digit
    · rw [negative, negative']

theorem exponent_value_eq_of_text (same : n.exponentText = m.exponentText) :
  n.exponent.elim 0 Exponent.value = m.exponent.elim 0 Exponent.value
  := by
  unfold exponentText at same
  cases some : n.exponent with
  | none =>
    cases some' : m.exponent with
    | none => rfl
    | some e' =>
      rw [some, some'] at same
      cases same
  | some e =>
    cases some' : m.exponent with
    | none =>
      rw [some, some'] at same
      cases same
    | some e' =>
      rw [some, some'] at same
      obtain ⟨-, same⟩ := List.cons_eq_cons.mp same
      have notSign : ∀ e : Exponent, ∀ c ∈ e.digits.head?, ¬c ∈ ['+', '-'] := by
        intro e c first
        have digit := e.allDigits c (List.mem_of_mem_head? first)
        intro sign
        obtain rfl | sign := List.mem_cons.mp sign
        · cases digit
        · rw [List.mem_singleton.mp sign] at digit
          cases digit
      have isSign : ∀ e : Exponent, ∀ c ∈ e.sign, c ∈ ['+', '-'] := by
        intro e c member
        obtain none | plus | minus := e.isSign
        · rw [none] at member
          cases member
        · rw [plus] at member
          rw [List.mem_singleton.mp member]
          decide
        · rw [minus] at member
          rw [List.mem_singleton.mp member]
          decide
      obtain ⟨sign, digits⟩ :=
        append_inj_of_span (isSign e) (isSign e') (notSign e) (notSign e') same
      change e.value = e'.value
      rw [Exponent.value, Exponent.value, sign, digits]

theorem fraction_eq_of_text
    (same : n.fractionText ++ n.exponentText = m.fractionText ++ m.exponentText) :
  n.fraction = m.fraction ∧ n.exponentText = m.exponentText
  := by
  have noPoint : ∀ (n : Numeral) (l : List Char), n.exponentText ≠ '.' :: l := by
    intro n l begins
    have mark := n.head_exponentText
    rw [begins] at mark
    obtain none | none := mark '.' rfl
    · cases none
    · cases none
  unfold fractionText at same
  split at same
  · rename_i none
    split at same
    · rename_i none'
      exact ⟨none.trans none'.symm, same⟩
    · exact absurd same (noPoint n _)
  · split at same
    · exact absurd same.symm (noPoint m _)
    · obtain ⟨-, same⟩ := List.cons_eq_cons.mp same
      exact append_inj_of_span n.fractionDigits m.fractionDigits n.not_isDigit_head_exponentText
        m.not_isDigit_head_exponentText same

/-- What is written determines the number. -/
theorem value_eq_of_text (same : n.text = m.text) :
  n.value = m.value
  := by
  have negative := negative_eq_of_text same
  unfold text signText at same
  rw [negative] at same
  obtain ⟨whole, tail⟩ := append_inj_of_span n.allDigits m.allDigits
    n.not_isDigit_head_fractionText m.not_isDigit_head_fractionText
    (List.append_cancel_left same)
  obtain ⟨fraction, exponent⟩ := fraction_eq_of_text tail
  rw [value, value, negative, whole, fraction, exponent_value_eq_of_text exponent]

/-- So does what is read, if it goes as far as it can. -/
theorem value_eq_of_append {t u : List Char} (ends : ∀ c ∈ t.head?, ¬IsPart c)
    (ends' : ∀ c ∈ u.head?, ¬IsPart c) (same : n.text ++ t = m.text ++ u) :
  n.value = m.value ∧ t = u
  := by
  obtain ⟨text, rest⟩ := append_inj_of_span (fun c => isPart_of_mem_text)
    (fun c => isPart_of_mem_text) ends ends' same
  exact ⟨value_eq_of_text text, rest⟩

theorem lt_of_isDigit (digit : Text.isDigit c = true) :
  ' ' < c
  := by
  rw [Text.isDigit, Bool.and_eq_true, decide_eq_true_eq] at digit
  have low : 48 ≤ c.toNat := digit.1
  exact Nat.lt_of_lt_of_le (by decide : 32 < 48) low

/-- A numeral begins with a minus sign or a digit. -/
def IsLead (c : Char) : Prop :=
  c = '-' ∨ Text.isDigit c = true

instance : Decidable (IsLead c) :=
  inferInstanceAs (Decidable (_ ∨ _))

theorem lt_of_isLead (lead : IsLead c) :
  ' ' < c
  := by
  obtain rfl | digit := lead
  · decide
  · exact lt_of_isDigit digit

theorem isLead_of_text {l t : List Char} (n : Numeral) (written : c :: l = n.text ++ t) :
  IsLead c
  := by
  obtain ⟨d, k, begins, lead⟩ := n.exists_head_text
  rw [begins] at written
  obtain ⟨rfl, -⟩ := List.cons_eq_cons.mp written
  obtain ⟨rfl, -⟩ | ⟨digit, -⟩ := lead
  · exact Or.inl rfl
  · exact Or.inr digit

end Numeral

/-! ### Strings -/

variable {l m t u : List Char} {p q : Phrase} {c : Char}

theorem ReadsText.unique {s s' : List Char} (reads : ReadsText l s t) (reads' : ReadsText l s' u) :
  s = s' ∧ t = u
  := by
  induction reads generalizing s' with
  | close =>
    generalize same : '"' :: _ = l at reads'
    cases reads' with
    | close =>
      cases same
      exact ⟨rfl, rfl⟩
    | plain visible unquoted unescaped rest =>
      cases same
      exact absurd rfl unquoted
    | _ => cases same
  | @plain c l s t visible unquoted unescaped rest ih =>
    generalize same : c :: l = k at reads'
    cases reads' with
    | close =>
      cases same
      exact absurd rfl unquoted
    | plain visible' unquoted' unescaped' rest' =>
      cases same
      obtain ⟨rfl, rfl⟩ := ih rest'
      exact ⟨rfl, rfl⟩
    | _ =>
      cases same
      exact absurd rfl unescaped
  | @escape e c l s t means rest ih =>
    generalize same : '\\' :: e :: l = k at reads'
    cases reads' with
    | close => cases same
    | plain visible' unquoted' unescaped' rest' =>
      cases same
      exact absurd rfl unescaped'
    | escape means' rest' =>
      cases same
      obtain ⟨rfl, rfl⟩ := ih rest'
      rw [means] at means'
      cases means'
      exact ⟨rfl, rfl⟩
    | _ =>
      cases same
      cases means
  | @unit a b c d n l s t means single rest ih =>
    generalize same : '\\' :: 'u' :: a :: b :: c :: d :: l = k at reads'
    cases reads' with
    | close => cases same
    | plain visible' unquoted' unescaped' rest' =>
      cases same
      exact absurd rfl unescaped'
    | escape means' rest' =>
      cases same
      cases means'
    | unit means' single' rest' =>
      cases same
      obtain ⟨rfl, rfl⟩ := ih rest'
      rw [means] at means'
      cases means'
      exact ⟨rfl, rfl⟩
    | pair first' second' isHigh' isLow' rest' =>
      cases same
      rw [means] at first'
      cases first'
      exact absurd isHigh' single.1
  | @pair a b c d a' b' c' d' high low l s t first second isHigh isLow rest ih =>
    generalize same :
      '\\' :: 'u' :: a :: b :: c :: d :: '\\' :: 'u' :: a' :: b' :: c' :: d' :: l = k at reads'
    cases reads' with
    | close => cases same
    | plain visible' unquoted' unescaped' rest' =>
      cases same
      exact absurd rfl unescaped'
    | escape means' rest' =>
      cases same
      cases means'
    | unit means' single' rest' =>
      cases same
      rw [first] at means'
      cases means'
      exact absurd isHigh single'.1
    | pair first' second' isHigh' isLow' rest' =>
      cases same
      obtain ⟨rfl, rfl⟩ := ih rest'
      rw [first] at first'
      rw [second] at second'
      cases first'
      cases second'
      exact ⟨rfl, rfl⟩

/-! ### Values -/

/-- The phrases are of one kind.  A structural character is no space. -/
def Phrase.Alike : Phrase → Phrase → Prop
  | .value _, .value _ => True
  | .mark c, .mark d => c = d ∧ ' ' < c
  | .items _, .items _ => True
  | .key _, .key _ => True
  | .members _, .members _ => True
  | _, _ => False

/-- The phrase is no structural character that could be taken for a space. -/
def Phrase.IsProper : Phrase → Prop
  | .mark c => ' ' < c
  | _ => True

theorem not_isSpace_of_lt (visible : ' ' < c) :
  isSpace c = false
  := by
  cases space : isSpace c with
  | false => rfl
  | true =>
    simp only [isSpace, Bool.or_eq_true, decide_eq_true_eq] at space
    obtain ((rfl | rfl) | rfl) | rfl := space
    · exact absurd visible (by decide)
    · exact absurd visible (by decide)
    · exact absurd visible (by decide)
    · exact absurd visible (by decide)

/-- A space before a phrase is no part of it. -/
theorem Reads.of_space (space : isSpace c = true) (proper : p.IsProper)
    (reads : Reads (c :: l) p t) :
  Reads l p t
  := by
  generalize same : c :: l = k at reads
  induction reads with
  | space between rest =>
    cases same
    exact rest
  | number n written ends =>
    rw [← same] at written
    rw [not_isSpace_of_lt (Numeral.lt_of_isLead (n.isLead_of_text written))] at space
    cases space
  | mark =>
    cases same
    rw [not_isSpace_of_lt proper] at space
    cases space
  | lastItem item close ih _ => exact .lastItem (ih trivial same) close
  | nextItem item comma rest ih _ _ => exact .nextItem (ih trivial same) comma rest
  | lastMember key colon value close ih _ _ _ =>
    exact .lastMember (ih trivial same) colon value close
  | nextMember key colon value comma rest ih _ _ _ _ =>
    exact .nextMember (ih trivial same) colon value comma rest
  | _ =>
    cases same
    cases space

/-- The first character that is no space. -/
def visible? (l : List Char) : Option Char :=
  (l.dropWhile isSpace).head?

theorem visible?_cons (visible : ' ' < c) :
  visible? (c :: l) = some c
  := by
  rw [visible?, List.dropWhile_cons_of_neg]
  · rfl
  · rw [not_isSpace_of_lt visible]
    exact Bool.false_ne_true

/-- What is known of the first character of a phrase. -/
def Phrase.Begins (c : Char) : Phrase → Prop
  | .value _ => c ≠ ']'
  | .mark d => c = d
  | .items _ => c ≠ ']'
  | .key _ => c = '"'
  | .members _ => c = '"'

theorem Reads.exists_visible (proper : p.IsProper) (reads : Reads l p t) :
  ∃ c, visible? l = some c ∧ p.Begins c
  := by
  induction reads with
  | space between rest ih =>
    obtain ⟨c, visible, begins⟩ := ih proper
    refine ⟨c, ?_, begins⟩
    rw [visible?, List.dropWhile_cons_of_pos between]
    exact visible
  | @number l t n written ends =>
    obtain ⟨c, k, begins, -⟩ := n.exists_head_text
    rw [begins] at written
    have alone : c :: k = n.text ++ [] := by rw [begins, List.append_nil]
    have lead := n.isLead_of_text alone
    use c
    constructor
    · rw [written]
      exact visible?_cons (Numeral.lt_of_isLead lead)
    · rintro rfl
      exact absurd lead (by decide)
  | mark => exact ⟨_, visible?_cons proper, rfl⟩
  | lastItem item close ih _ => exact ih trivial
  | nextItem item comma rest ih _ _ => exact ih trivial
  | lastMember key colon value close ih _ _ _ => exact ih trivial
  | nextMember key colon value comma rest ih _ _ _ _ => exact ih trivial
  | key text => exact ⟨'"', rfl, rfl⟩
  | _ =>
    refine ⟨_, rfl, ?_⟩
    intro same
    cases same

/-- What begins with one structural character begins with no other, and with no value if it is a
closing bracket. -/
theorem Reads.begins_of_mark (mark : Reads l (.mark c) t) (visible : ' ' < c) (reads : Reads l p u)
    (proper : p.IsProper) :
  p.Begins c
  := by
  have visible : (Phrase.mark c).IsProper := visible
  obtain ⟨d, first, rfl⟩ := mark.exists_visible visible
  obtain ⟨c, first', begins⟩ := reads.exists_visible proper
  rw [first] at first'
  cases first'
  exact begins

/-- The items of an array are a value and what follows it. -/
theorem Reads.items_cases {vs : List Json} (reads : Reads l (.items vs) t) :
  ∃ v m, Reads l (.value v) m ∧ (vs = [v] ∧ Reads m (.mark ']') t
    ∨ ∃ n ws, vs = v :: ws ∧ Reads m (.mark ',') n ∧ Reads n (.items ws) t)
  := by
  generalize same : Phrase.items vs = p at reads
  induction reads with
  | space between rest ih =>
    obtain ⟨v, m, item, rest⟩ := ih same
    exact ⟨v, m, .space between item, rest⟩
  | lastItem item close =>
    cases same
    exact ⟨_, _, item, Or.inl ⟨rfl, close⟩⟩
  | nextItem item comma rest =>
    cases same
    exact ⟨_, _, item, Or.inr ⟨_, _, rfl, comma, rest⟩⟩
  | _ => cases same

/-- The members of an object are a member and what follows it. -/
theorem Reads.members_cases {ms : List (String × Json)} (reads : Reads l (.members ms) t) :
  ∃ name v m n o, Reads l (.key name) m ∧ Reads m (.mark ':') n ∧ Reads n (.value v) o
    ∧ (ms = [(name, v)] ∧ Reads o (.mark '\x7d') t
      ∨ ∃ q rest, ms = (name, v) :: rest ∧ Reads o (.mark ',') q ∧ Reads q (.members rest) t)
  := by
  generalize same : Phrase.members ms = p at reads
  induction reads with
  | space between rest ih =>
    obtain ⟨name, v, m, n, o, key, rest⟩ := ih same
    exact ⟨name, v, m, n, o, .space between key, rest⟩
  | lastMember key colon value close =>
    cases same
    exact ⟨_, _, _, _, _, key, colon, value, Or.inl ⟨rfl, close⟩⟩
  | nextMember key colon value comma rest =>
    cases same
    exact ⟨_, _, _, _, _, key, colon, value, Or.inr ⟨_, _, rfl, comma, rest⟩⟩
  | _ => cases same

theorem Phrase.Alike.isProper (alike : p.Alike q) :
  q.IsProper
  := by
  cases q with
  | mark c =>
    cases p with
    | mark d =>
      obtain ⟨rfl, visible⟩ := alike
      exact visible
    | _ => cases alike
  | _ => trivial

/-! ### First characters -/

/-- How a value is read of which the first character has been seen: a character that is no space and
begins no numeral leaves one way, or two if it is an opening bracket. -/
inductive Opens : Char → List Char → Json → List Char → Prop where
  | literalNull {t : List Char} : Opens 'n' ('u' :: 'l' :: 'l' :: t) .null t
  | literalTrue {t : List Char} : Opens 't' ('r' :: 'u' :: 'e' :: t) (.bool true) t
  | literalFalse {t : List Char} : Opens 'f' ('a' :: 'l' :: 's' :: 'e' :: t) (.bool false) t
  | string {l s t : List Char} (text : ReadsText l s t) : Opens '"' l (.string (.ofList s)) t
  | emptyArray {l t : List Char} (close : Reads l (.mark ']') t) : Opens '[' l (.array []) t
  | array {l t : List Char} {vs : List Json} (items : Reads l (.items vs) t) :
    Opens '[' l (.array vs) t
  | emptyObject {l t : List Char} (close : Reads l (.mark '\x7d') t) :
    Opens '\x7b' l (.object []) t
  | object {l t : List Char} {ms : List (String × Json)} (members : Reads l (.members ms) t) :
    Opens '\x7b' l (.object ms) t

theorem Reads.opens {v : Json} (reads : Reads (c :: l) (.value v) t) (visible : isSpace c = false)
    (unnumbered : ¬Numeral.IsLead c) :
  Opens c l v t
  := by
  cases reads with
  | space between _ =>
    rw [visible] at between
    cases between
  | number n written _ => exact absurd (n.isLead_of_text written) unnumbered
  | literalNull => exact .literalNull
  | literalTrue => exact .literalTrue
  | literalFalse => exact .literalFalse
  | string text => exact .string text
  | emptyArray close => exact .emptyArray close
  | array items => exact .array items
  | emptyObject close => exact .emptyObject close
  | object members => exact .object members

/-- A value that begins as a numeral does is a number. -/
theorem Reads.isNumeral {v : Json} (reads : Reads l (.value v) t)
    (lead : ∀ c ∈ l.head?, Numeral.IsLead c) :
  ∃ n : Numeral, v = .number n.value ∧ l = n.text ++ t ∧ ∀ c ∈ t.head?, ¬Numeral.IsPart c
  := by
  cases reads with
  | space between _ =>
    rw [not_isSpace_of_lt (Numeral.lt_of_isLead (lead _ rfl))] at between
    cases between
  | number n written ends => exact ⟨n, rfl, written, ends⟩
  | _ => exact absurd (lead _ rfl) (by decide)

theorem Phrase.Alike.exists_value {v : Json} (alike : (Phrase.value v).Alike q) :
  ∃ w, q = .value w
  := by
  cases q with
  | value w => exact ⟨w, rfl⟩
  | _ => cases alike

/-- What is read is one phrase of its kind. -/
theorem Reads.unique (reads : Reads l p t) (reads' : Reads l q u) (alike : p.Alike q) :
  p = q ∧ t = u
  := by
  induction reads generalizing q u with
  | space between rest ih => exact ih (reads'.of_space between alike.isProper) alike
  | literalNull | literalTrue | literalFalse =>
    obtain ⟨w, rfl⟩ := alike.exists_value
    cases reads'.opens rfl (by decide)
    exact ⟨rfl, rfl⟩
  | @number l t n written ends =>
    obtain ⟨w, rfl⟩ := alike.exists_value
    have lead : ∀ c ∈ l.head?, Numeral.IsLead c := by
      intro c first
      obtain ⟨k, begins⟩ := List.head?_eq_some_iff.mp first
      exact n.isLead_of_text (begins.symm.trans written)
    obtain ⟨m, rfl, written', ends'⟩ := reads'.isNumeral lead
    rw [written] at written'
    obtain ⟨value, rfl⟩ := Numeral.value_eq_of_append ends ends' written'
    rw [value]
    exact ⟨rfl, rfl⟩
  | string text =>
    obtain ⟨w, rfl⟩ := alike.exists_value
    cases reads'.opens rfl (by decide) with
    | string text' =>
      obtain ⟨rfl, rfl⟩ := text.unique text'
      exact ⟨rfl, rfl⟩
  | emptyArray close ih =>
    obtain ⟨w, rfl⟩ := alike.exists_value
    cases reads'.opens rfl (by decide) with
    | emptyArray close' =>
      obtain ⟨-, rfl⟩ := ih close' ⟨rfl, by decide⟩
      exact ⟨rfl, rfl⟩
    | array items => exact absurd rfl (close.begins_of_mark (by decide) items trivial)
  | array items ih =>
    obtain ⟨w, rfl⟩ := alike.exists_value
    cases reads'.opens rfl (by decide) with
    | emptyArray close => exact absurd rfl (close.begins_of_mark (by decide) items trivial)
    | array items' =>
      obtain ⟨same, rfl⟩ := ih items' trivial
      cases same
      exact ⟨rfl, rfl⟩
  | emptyObject close ih =>
    obtain ⟨w, rfl⟩ := alike.exists_value
    cases reads'.opens rfl (by decide) with
    | emptyObject close' =>
      obtain ⟨-, rfl⟩ := ih close' ⟨rfl, by decide⟩
      exact ⟨rfl, rfl⟩
    | object members => cases close.begins_of_mark (by decide) members trivial
  | object members ih =>
    obtain ⟨w, rfl⟩ := alike.exists_value
    cases reads'.opens rfl (by decide) with
    | emptyObject close => cases close.begins_of_mark (by decide) members trivial
    | object members' =>
      obtain ⟨same, rfl⟩ := ih members' trivial
      cases same
      exact ⟨rfl, rfl⟩
  | mark =>
    cases q with
    | mark d =>
      obtain ⟨rfl, visible⟩ := alike
      cases reads' with
      | mark => exact ⟨rfl, rfl⟩
      | space between _ =>
        rw [not_isSpace_of_lt visible] at between
        cases between
    | _ => cases alike
  | lastItem item close itemUnique closeUnique =>
    cases q with
    | items vs =>
      obtain ⟨v, m, item', ⟨rfl, close'⟩ | ⟨n, ws, -, comma, -⟩⟩ := reads'.items_cases
      · obtain ⟨same, rfl⟩ := itemUnique item' trivial
        obtain ⟨-, rfl⟩ := closeUnique close' ⟨rfl, by decide⟩
        cases same
        exact ⟨rfl, rfl⟩
      · obtain ⟨-, rfl⟩ := itemUnique item' trivial
        cases close.begins_of_mark (by decide) comma (by decide : ' ' < ',')
    | _ => cases alike
  | nextItem item comma rest itemUnique commaUnique restUnique =>
    cases q with
    | items vs =>
      obtain ⟨v, m, item', ⟨-, close⟩ | ⟨n, ws, rfl, comma', rest'⟩⟩ := reads'.items_cases
      · obtain ⟨-, rfl⟩ := itemUnique item' trivial
        cases close.begins_of_mark (by decide) comma (by decide : ' ' < ',')
      · obtain ⟨same, rfl⟩ := itemUnique item' trivial
        obtain ⟨-, rfl⟩ := commaUnique comma' ⟨rfl, by decide⟩
        obtain ⟨same', rfl⟩ := restUnique rest' trivial
        cases same
        cases same'
        exact ⟨rfl, rfl⟩
    | _ => cases alike
  | key text =>
    cases reads' with
    | key text' =>
      obtain ⟨rfl, rfl⟩ := text.unique text'
      exact ⟨rfl, rfl⟩
    | space between _ => cases between
    | _ => cases alike
  | lastMember key colon value close keyUnique colonUnique valueUnique closeUnique =>
    cases q with
    | members ms =>
      obtain ⟨name, v, m, n, o, key', colon', value', last⟩ := reads'.members_cases
      obtain ⟨sameKey, rfl⟩ := keyUnique key' trivial
      obtain ⟨-, rfl⟩ := colonUnique colon' ⟨rfl, by decide⟩
      obtain ⟨sameValue, rfl⟩ := valueUnique value' trivial
      obtain ⟨rfl, close'⟩ | ⟨q, rest, -, comma, -⟩ := last
      · obtain ⟨-, rfl⟩ := closeUnique close' ⟨rfl, by decide⟩
        cases sameKey
        cases sameValue
        exact ⟨rfl, rfl⟩
      · cases close.begins_of_mark (by decide) comma (by decide : ' ' < ',')
    | _ => cases alike
  | nextMember key colon value comma rest keyUnique colonUnique valueUnique commaUnique
      restUnique =>
    cases q with
    | members ms =>
      obtain ⟨name, v, m, n, o, key', colon', value', last⟩ := reads'.members_cases
      obtain ⟨sameKey, rfl⟩ := keyUnique key' trivial
      obtain ⟨-, rfl⟩ := colonUnique colon' ⟨rfl, by decide⟩
      obtain ⟨sameValue, rfl⟩ := valueUnique value' trivial
      obtain ⟨-, close⟩ | ⟨q, rest, rfl, comma', rest'⟩ := last
      · cases close.begins_of_mark (by decide) comma (by decide : ' ' < ',')
      · obtain ⟨-, rfl⟩ := commaUnique comma' ⟨rfl, by decide⟩
        obtain ⟨sameRest, rfl⟩ := restUnique rest' trivial
        cases sameKey
        cases sameValue
        cases sameRest
        exact ⟨rfl, rfl⟩
    | _ => cases alike

/-- A text stands for at most one value. -/
theorem Denotes.unique {text : String} {v w : Json} (denotes : Denotes text v)
    (denotes' : Denotes text w) :
  v = w
  := by
  obtain ⟨t, reads, -⟩ := denotes
  obtain ⟨u, reads', -⟩ := denotes'
  cases (reads.unique reads' trivial).1
  rfl

end Json

end ForwardChaining
