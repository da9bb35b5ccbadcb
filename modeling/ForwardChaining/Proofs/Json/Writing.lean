import Mathlib.Data.List.Forall2
import Mathlib.Data.Rat.Cast.Defs
import ForwardChaining.Trace.Format
import ForwardChaining.Proofs.Json.Characters
import ForwardChaining.Proofs.Text.Digits

/-!
# Writing JSON

What stands for a value is put together from what stands for its parts: numerals, strings
(`Json.writes_text`), arrays (`Json.writes_array`) and objects (`Json.writes_object`).  A string is
written as it should be if its control characters are all escaped, and only then, since the others
stay as they are (`Json.isPlain_of_escape`).  Each character is escaped by itself, which comes to
the same as replacing one after another (`Json.flatMap_escapeChar`).
-/

namespace ForwardChaining

namespace Json

variable {c : Char} {l s t : List Char} {p : Phrase} {v : Json}

/-- The text stands for the value wherever no part of a numeral follows. -/
def Writes (text : String) (v : Json) : Prop :=
  ∀ t : List Char, (∀ c ∈ t.head?, ¬Numeral.IsPart c) → Reads (text.toList ++ t) (.value v) t

theorem Writes.denotes {text : String} (writes : Writes text v) :
  Denotes text v
  := by
  use []
  constructor
  · have reads := writes [] (fun _ first => nomatch first)
    rw [List.append_nil] at reads
    exact reads
  · exact List.forall_mem_nil _

theorem Reads.spaces {k : List Char} (between : ∀ c ∈ k, isSpace c = true) (reads : Reads l p t) :
  Reads (k ++ l) p t
  := by
  induction k with
  | nil => exact reads
  | cons c k ih =>
    rw [List.forall_mem_cons] at between
    exact .space between.1 (ih between.2)

theorem not_isPart_head (ends : ¬Numeral.IsPart c) :
  ∀ d ∈ (c :: t).head?, ¬Numeral.IsPart d
  := by
  intro d first
  cases first
  exact ends

/-- A space is no part of a numeral. -/
theorem not_isPart_head_spaces {k : List Char} (between : ∀ c ∈ k, isSpace c = true)
    (ends : ¬Numeral.IsPart c) :
  ∀ d ∈ (k ++ c :: t).head?, ¬Numeral.IsPart d
  := by
  cases k with
  | nil => exact not_isPart_head ends
  | cons e k =>
    intro d first part
    cases first
    have space := between e List.mem_cons_self
    obtain digit | member := part
    · rw [not_isSpace_of_lt (Numeral.lt_of_isDigit digit)] at space
      cases space
    · have all : ∀ c ∈ ['-', '+', '.', 'e', 'E'], isSpace c = false := by simp [isSpace]
      rw [all e member] at space
      cases space

/-! ### Numbers and truth values -/

/-- The numeral of a natural number. -/
def Numeral.ofNat (n : Nat) : Numeral where
  negative := false
  whole := (toString n).toList
  fraction := []
  exponent := none
  nonempty := Text.toList_toString_ne_nil n
  allDigits := Text.all_isDigit_toString n
  leading := Text.toList_toString_eq_of_head
  fractionDigits := List.forall_mem_nil _

theorem Numeral.text_ofNat (n : Nat) :
  (ofNat n).text = (toString n).toList
  := List.append_nil _

theorem Numeral.value_ofNat (n : Nat) :
  (ofNat n).value = n
  := by
  have digits : Text.digitsValue ((ofNat n).whole ++ []) = n := by
    rw [List.append_nil]
    exact Text.digitsValue_toString n
  rw [value, show (ofNat n).fraction = [] from rfl, digits]
  simp [ofNat]

theorem writes_nat (n : Nat) :
  Writes (toString n) (.number n)
  := by
  intro t ends
  rw [← Numeral.text_ofNat, ← Numeral.value_ofNat]
  exact .number (.ofNat n) rfl ends

theorem writes_bool (b : Bool) :
  Writes (toString b) (.bool b)
  := by
  intro t ends
  cases b with
  | true => exact .literalTrue
  | false => exact .literalFalse

/-! ### Strings -/

/-- The only control characters of the text are line feeds, carriage returns and tabs. -/
def IsPlain (text : String) : Prop :=
  ∀ c ∈ text.toList, ' ' ≤ c ∨ c = '\n' ∨ c = '\r' ∨ c = '\t'

instance {text : String} : Decidable (IsPlain text) :=
  List.decidableBAll _ text.toList

theorem isAllowed_iff :
  IsAllowed c ↔ ' ' ≤ c ∨ c = '\n' ∨ c = '\r' ∨ c = '\t'
  := by
  simp only [IsAllowed, isSpace, Bool.or_eq_true, decide_eq_true_eq]
  constructor
  · rintro (visible | ((rfl | tab) | feed) | carriage)
    · exact Or.inl visible
    · exact Or.inl (by decide)
    · exact Or.inr (Or.inr (Or.inr tab))
    · exact Or.inr (Or.inl feed)
    · exact Or.inr (Or.inr (Or.inl carriage))
  · rintro (visible | feed | carriage | tab)
    · exact Or.inl visible
    · exact Or.inr (Or.inl (Or.inr feed))
    · exact Or.inr (Or.inr carriage)
    · exact Or.inr (Or.inl (Or.inl (Or.inr tab)))

theorem readsText_escapeChar (plain : ' ' ≤ c ∨ c = '\n' ∨ c = '\r' ∨ c = '\t')
    (rest : ReadsText l s t) :
  ReadsText (TraceJson.escapeChar c ++ l) (c :: s) t
  := by
  unfold TraceJson.escapeChar
  split
  · exact .escape rfl rest
  · exact .escape rfl rest
  · exact .escape rfl rest
  · exact .escape rfl rest
  · exact .escape rfl rest
  · rename_i backslash quotation feed carriage tab
    obtain visible | rfl | rfl | rfl := plain
    · exact .plain visible quotation backslash rest
    · exact absurd rfl feed
    · exact absurd rfl carriage
    · exact absurd rfl tab

theorem toList_escape (text : String) :
  (TraceJson.escape text).toList = text.toList.flatMap TraceJson.escapeChar
  := String.toList_ofList

/-- The characters with `c` replaced by `cs` wherever it occurs. -/
def replace (c : Char) (cs l : List Char) : List Char :=
  l.flatMap fun d => if d = c then cs else [d]

/-- The characters that are escaped can be replaced one after another if the backslash comes first:
what the others are replaced by has backslashes. -/
theorem flatMap_escapeChar (l : List Char) :
  l.flatMap TraceJson.escapeChar
    = replace '\t' ['\\', 't'] (replace '\r' ['\\', 'r'] (replace '\n' ['\\', 'n']
      (replace '"' ['\\', '"'] (replace '\\' ['\\', '\\'] l))))
  := by
  simp only [replace, List.flatMap_assoc]
  congr 1
  funext c
  unfold TraceJson.escapeChar
  split
  · rfl
  · rfl
  · rfl
  · rfl
  · rfl
  · rename_i backslash quotation feed carriage tab
    rw [if_neg backslash, List.flatMap_singleton, if_neg quotation, List.flatMap_singleton,
      if_neg feed, List.flatMap_singleton, if_neg carriage, List.flatMap_singleton, if_neg tab]

theorem readsText_escape (plain : ∀ c ∈ s, ' ' ≤ c ∨ c = '\n' ∨ c = '\r' ∨ c = '\t') :
  ReadsText (s.flatMap TraceJson.escapeChar ++ '"' :: t) s t
  := by
  induction s with
  | nil => exact .close
  | cons c s ih =>
    rw [List.forall_mem_cons] at plain
    rw [List.flatMap_cons, List.append_assoc]
    exact readsText_escapeChar plain.1 (ih plain.2)

theorem writes_text {text : String} (plain : IsPlain text) :
  Writes (TraceJson.text text) (.string text)
  := by
  intro t ends
  have reads := Reads.string (readsText_escape (t := t) plain)
  rw [String.ofList_toList] at reads
  simpa [TraceJson.text, toList_escape] using reads

/-- A control character that is not escaped stays. -/
theorem isPlain_of_escape {text : String}
    (allowed : ∀ c ∈ (TraceJson.escape text).toList, IsAllowed c) :
  IsPlain text
  := by
  intro c member
  rw [toList_escape] at allowed
  have written : ∀ d ∈ TraceJson.escapeChar c, IsAllowed d :=
    fun d part => allowed d (List.mem_flatMap.mpr ⟨c, member, part⟩)
  rw [← isAllowed_iff]
  unfold TraceJson.escapeChar at written
  split at written
  · decide
  · decide
  · decide
  · decide
  · decide
  · exact written c List.mem_cons_self

/-- The characters of a name stand for themselves. -/
def IsLiteral (name : String) : Prop :=
  ∀ c ∈ name.toList, ' ' ≤ c ∧ c ≠ '"' ∧ c ≠ '\\'

instance {name : String} : Decidable (IsLiteral name) :=
  List.decidableBAll _ name.toList

theorem readsText_literal (literal : ∀ c ∈ s, ' ' ≤ c ∧ c ≠ '"' ∧ c ≠ '\\') :
  ReadsText (s ++ '"' :: t) s t
  := by
  induction s with
  | nil => exact .close
  | cons c s ih =>
    rw [List.forall_mem_cons] at literal
    exact .plain literal.1.1 literal.1.2.1 literal.1.2.2 (ih literal.2)

theorem writes_literal {name : String} (literal : IsLiteral name) :
  Writes ("\"" ++ name ++ "\"") (.string name)
  := by
  intro t ends
  have reads := Reads.string (readsText_literal (t := t) literal)
  rw [String.ofList_toList] at reads
  simpa using reads

/-! ### Arrays -/

section Arrays

variable {texts : List String} {vs : List Json}

theorem reads_items {between after : List Char} (gap : ∀ c ∈ between, isSpace c = true)
    (last : ∀ c ∈ after, isSpace c = true)
    (writes : List.Forall₂ Writes texts vs) (some : vs ≠ []) :
  Reads ((',' :: between).intercalate (texts.map String.toList) ++ (after ++ ']' :: t))
    (.items vs) t
  := by
  induction writes with
  | nil => contradiction
  | @cons text v texts vs item rest ih =>
    cases rest with
    | nil =>
      rw [List.map_cons, List.map_nil, List.intercalate_singleton]
      exact .lastItem (item _ (not_isPart_head_spaces last (by decide))) (.spaces last .mark)
    | cons next rest =>
      rw [List.map_cons, List.map_cons, List.intercalate_cons_cons, List.append_assoc,
        List.append_assoc, List.cons_append]
      apply Reads.nextItem (item _ (not_isPart_head (by decide))) .mark
      apply Reads.spaces gap
      exact ih (List.cons_ne_nil _ _)

/-- What stands between brackets and commas may have spaces around it. -/
theorem writes_array (before between after : List Char) {opening separator closing : String}
    (opens : opening.toList = '[' :: before) (separates : separator.toList = ',' :: between)
    (closes : closing.toList = after ++ [']']) (first : ∀ c ∈ before, isSpace c = true)
    (gap : ∀ c ∈ between, isSpace c = true) (last : ∀ c ∈ after, isSpace c = true)
    (writes : List.Forall₂ Writes texts vs) :
  Writes (opening ++ separator.intercalate texts ++ closing) (.array vs)
  := by
  intro t ends
  rw [String.toList_append, String.toList_append, String.toList_intercalate, opens, separates,
    closes, List.append_assoc, List.append_assoc, List.append_assoc, List.cons_append]
  cases writes with
  | nil =>
    rw [List.map_nil, List.intercalate_nil, List.nil_append]
    exact .emptyArray (.spaces first (.spaces last .mark))
  | cons item rest =>
    apply Reads.array
    apply Reads.spaces first
    exact reads_items gap last (.cons item rest) (List.cons_ne_nil _ _)

end Arrays

/-! ### Objects -/

section Objects

variable {fields : List String} {ms : List (String × Json)}

/-- The text is a member: its name between quotation marks, a colon and its value. -/
def WritesField (text : String) (m : String × Json) : Prop :=
  ∃ value, text = TraceJson.field m.1 value ∧ IsLiteral m.1 ∧ Writes value m.2

theorem writesField {name value : String} (literal : IsLiteral name) (writes : Writes value v) :
  WritesField (TraceJson.field name value) (name, v)
  := ⟨value, rfl, literal, writes⟩

theorem WritesField.reads {text : String} {m : String × Json} (writes : WritesField text m)
    (ends : ∀ c ∈ t.head?, ¬Numeral.IsPart c) :
  ∃ l k, Reads (text.toList ++ t) (.key m.1) l ∧ Reads l (.mark ':') k ∧ Reads k (.value m.2) t
  := by
  obtain ⟨value, rfl, literal, value_writes⟩ := writes
  refine ⟨':' :: (value.toList ++ t), value.toList ++ t, ?_, .mark, value_writes t ends⟩
  have reads := Reads.key (readsText_literal (t := ':' :: (value.toList ++ t)) literal)
  rw [String.ofList_toList] at reads
  simpa [TraceJson.field] using reads

theorem reads_members (writes : List.Forall₂ WritesField fields ms) (some : ms ≠ []) :
  Reads ([','].intercalate (fields.map String.toList) ++ '\x7d' :: t) (.members ms) t
  := by
  induction writes with
  | nil => contradiction
  | @cons field m fields ms member rest ih =>
    cases rest with
    | nil =>
      rw [List.map_cons, List.map_nil, List.intercalate_singleton]
      obtain ⟨l, k, key, colon, value⟩ :=
        member.reads (t := '\x7d' :: t) (not_isPart_head (by decide))
      exact .lastMember key colon value .mark
    | cons next rest =>
      rw [List.map_cons, List.map_cons, List.intercalate_cons_cons, List.append_assoc,
        List.append_assoc, List.singleton_append]
      obtain ⟨l, k, key, colon, value⟩ := member.reads (not_isPart_head (c := ',') (by decide))
      exact .nextMember key colon value .mark (ih (List.cons_ne_nil _ _))

theorem writes_object (writes : List.Forall₂ WritesField fields ms) :
  Writes ("\x7b" ++ ",".intercalate fields ++ "\x7d") (.object ms)
  := by
  intro t ends
  rw [String.toList_append, String.toList_append, String.toList_intercalate, List.append_assoc,
    List.append_assoc]
  cases writes with
  | nil => exact .emptyObject .mark
  | cons member rest => exact .object (reads_members (.cons member rest) (List.cons_ne_nil _ _))

end Objects

end Json

end ForwardChaining
