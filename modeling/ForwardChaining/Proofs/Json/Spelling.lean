import ForwardChaining.Proofs.Json.Writing

/-!
# Spelled-out control characters

Control characters other than line feeds, carriage returns and tabs are written into strings as they
are, which JSON does not allow.  With these characters spelled out, by their numbers
(`Json.spell`), what is written for a text stands for the text, whatever its characters are
(`Json.writes_spell_text`); and what has no control characters stays as it is.
-/

namespace ForwardChaining

namespace Json

variable {c : Char} {l s t : List Char} {m : String × Json}

/-- The character, spelled out if it is a control character. -/
def spellChar (c : Char) : List Char :=
  if ' ' ≤ c then [c]
  else ['\\', 'u', '0', '0', Nat.digitChar (c.toNat / 16), Nat.digitChar (c.toNat % 16)]

/-- The text with its control characters spelled out. -/
def spell (text : String) : String :=
  .ofList (text.toList.flatMap spellChar)

theorem toList_spell (text : String) :
  (spell text).toList = text.toList.flatMap spellChar
  := String.toList_ofList

theorem spell_append (text more : String) :
  spell (text ++ more) = spell text ++ spell more
  := by
  rw [spell, String.toList_append, List.flatMap_append, String.ofList_append]
  rfl

theorem flatMap_spellChar (visible : ∀ c ∈ l, ' ' ≤ c) :
  l.flatMap spellChar = l
  := by
  induction l with
  | nil => rfl
  | cons c l ih =>
    rw [List.forall_mem_cons] at visible
    rw [List.flatMap_cons, ih visible.2, spellChar, if_pos visible.1]
    rfl

/-- The text has no control characters. -/
def IsVisible (text : String) : Prop :=
  ∀ c ∈ text.toList, ' ' ≤ c

instance {text : String} : Decidable (IsVisible text) :=
  List.decidableBAll _ text.toList

theorem IsVisible.append {text more : String} (visible : IsVisible text)
    (visible' : IsVisible more) :
  IsVisible (text ++ more)
  := by
  intro c member
  rw [String.toList_append, List.mem_append] at member
  obtain member | member := member
  · exact visible c member
  · exact visible' c member

theorem IsLiteral.visible {name : String} (literal : IsLiteral name) :
  IsVisible name
  := fun c member => (literal c member).1

theorem spell_of_visible {text : String} (visible : IsVisible text) :
  spell text = text
  := by
  rw [spell, flatMap_spellChar visible, String.ofList_toList]

theorem flatMap_intercalate (f : Char → List Char) (glue : List Char) (lists : List (List Char)) :
  (glue.intercalate lists).flatMap f
    = (glue.flatMap f).intercalate (lists.map fun l => l.flatMap f)
  := by
  induction lists with
  | nil => rfl
  | cons first rest ih =>
    cases rest with
    | nil => simp
    | cons next rest =>
      rw [List.intercalate_cons_cons, List.flatMap_append, List.flatMap_append, ih, List.map_cons,
        List.map_cons, List.map_cons, List.intercalate_cons_cons]

theorem spell_intercalate (glue : String) (texts : List String) :
  spell (glue.intercalate texts) = (spell glue).intercalate (texts.map spell)
  := by
  apply String.toList_inj.mp
  rw [toList_spell, String.toList_intercalate, String.toList_intercalate, flatMap_intercalate,
    List.map_map, List.map_map, ← toList_spell]
  simp only [Function.comp_def, toList_spell]

/-! ### Strings -/

/-- The number of a control character has two hexadecimal digits, which stand for it. -/
theorem codeUnit?_digitChar :
  ∀ n : Fin 32, codeUnit? '0' '0' (Nat.digitChar (n / 16)) (Nat.digitChar (n % 16)) = some n.val
  := by
  decide

theorem readsText_spellChar (control : ¬(' ' ≤ c)) (rest : ReadsText l s t) :
  ReadsText (spellChar c ++ l) (c :: s) t
  := by
  have below : c.toNat < 32 := by
    rw [Char.le_def, UInt32.le_iff_toNat_le] at control
    exact Nat.lt_of_not_le control
  have single : ¬IsHigh c.toNat ∧ ¬IsLow c.toNat := by
    unfold IsHigh IsLow
    omega
  have reads := ReadsText.unit (codeUnit?_digitChar ⟨c.toNat, below⟩) single rest
  rw [Char.ofNat_toNat] at reads
  rw [spellChar, if_neg control]
  exact reads

/-- An escaped character has no control characters, unless it is one itself. -/
theorem readsText_spell (c : Char) (rest : ReadsText l s t) :
  ReadsText ((TraceJson.escapeChar c).flatMap spellChar ++ l) (c :: s) t
  := by
  unfold TraceJson.escapeChar
  split
  · exact .escape rfl rest
  · exact .escape rfl rest
  · exact .escape rfl rest
  · exact .escape rfl rest
  · exact .escape rfl rest
  · rename_i backslash quotation feed carriage tab
    rw [List.flatMap_singleton]
    by_cases visible : ' ' ≤ c
    · rw [spellChar, if_pos visible]
      exact .plain visible quotation backslash rest
    · exact readsText_spellChar visible rest

theorem readsText_spell_escape (s t : List Char) :
  ReadsText ((s.flatMap TraceJson.escapeChar).flatMap spellChar ++ '"' :: t) s t
  := by
  induction s with
  | nil => exact .close
  | cons c s ih =>
    rw [List.flatMap_cons, List.flatMap_append, List.append_assoc]
    exact readsText_spell c ih

/-- What is written for a text, with its control characters spelled out, stands for the text. -/
theorem writes_spell_text (text : String) :
  Writes (spell (TraceJson.text text)) (.string text)
  := by
  have quotation : spell "\"" = "\"" := by decide
  intro t ends
  have reads := Reads.string (readsText_spell_escape text.toList t)
  rw [String.ofList_toList] at reads
  rw [TraceJson.text, spell_append, spell_append, quotation]
  simpa [toList_spell, toList_escape] using reads

/-! ### Fields -/

/-- The text is a member of an object: its value has no control characters, or is what is written
for a text. -/
inductive IsField : String → String × Json → Prop where
  | visible {name value : String} {v : Json} (literal : IsLiteral name) (writes : Writes value v)
      (visible : IsVisible value) : IsField (TraceJson.field name value) (name, v)
  | text {name : String} (literal : IsLiteral name) (text : String) :
      IsField (TraceJson.field name (TraceJson.text text)) (name, .string text)

theorem spell_field {name : String} (literal : IsLiteral name) (value : String) :
  spell (TraceJson.field name value) = TraceJson.field name (spell value)
  := by
  have quotation : spell "\"" = "\"" := by decide
  have colon : spell "\":" = "\":" := by decide
  rw [TraceJson.field, spell_append, spell_append, spell_append, quotation, colon,
    spell_of_visible literal.visible]
  rfl

theorem IsField.writes_spell {field : String} (is : IsField field m) :
  WritesField (spell field) m
  := by
  cases is with
  | visible literal writes visible =>
    rw [spell_field literal, spell_of_visible visible]
    exact writesField literal writes
  | text literal text =>
    rw [spell_field literal]
    exact writesField literal (writes_spell_text text)

/-- The text of an object, with its control characters spelled out, stands for the object. -/
theorem denotes_spell_object {fields : List String} {ms : List (String × Json)}
    (are : List.Forall₂ IsField fields ms) :
  Denotes (spell ("\x7b" ++ ",".intercalate fields ++ "\x7d")) (.object ms)
  := by
  have opening : spell "\x7b" = "\x7b" := by decide
  have comma : spell "," = "," := by decide
  have closing : spell "\x7d" = "\x7d" := by decide
  rw [spell_append, spell_append, spell_intercalate, opening, comma, closing]
  apply Writes.denotes
  apply writes_object
  rw [List.forall₂_map_left_iff]
  exact are.imp fun _ _ is => is.writes_spell

/-! ### Lines -/

/-- The text has no line feed and no carriage return. -/
def IsLine (text : String) : Prop :=
  ∀ c ∈ text.toList, c ≠ '\n' ∧ c ≠ '\r'

instance {text : String} : Decidable (IsLine text) :=
  List.decidableBAll _ text.toList

theorem isLine_of_visible {text : String} (visible : IsVisible text) :
  IsLine text
  := by
  intro c member
  constructor
  · rintro rfl
    exact absurd (visible _ member) (by decide)
  · rintro rfl
    exact absurd (visible _ member) (by decide)

theorem IsLine.append {text more : String} (line : IsLine text) (line' : IsLine more) :
  IsLine (text ++ more)
  := by
  intro c member
  rw [String.toList_append, List.mem_append] at member
  obtain member | member := member
  · exact line c member
  · exact line' c member

theorem mem_of_mem_intercalate {glue : List Char} {lists : List (List Char)}
    (member : c ∈ glue.intercalate lists) :
  c ∈ glue ∨ ∃ l ∈ lists, c ∈ l
  := by
  induction lists with
  | nil => cases member
  | cons first rest ih =>
    cases rest with
    | nil =>
      rw [List.intercalate_singleton] at member
      exact Or.inr ⟨first, List.mem_cons_self, member⟩
    | cons next rest =>
      rw [List.intercalate_cons_cons, List.mem_append, List.mem_append] at member
      obtain (inside | between) | member := member
      · exact Or.inr ⟨first, List.mem_cons_self, inside⟩
      · exact Or.inl between
      · obtain between | ⟨l, part, inside⟩ := ih member
        · exact Or.inl between
        · exact Or.inr ⟨l, List.mem_cons_of_mem _ part, inside⟩

theorem IsLine.intercalate {glue : String} {texts : List String} (line : IsLine glue)
    (lines : ∀ text ∈ texts, IsLine text) :
  IsLine (glue.intercalate texts)
  := by
  intro c member
  rw [String.toList_intercalate] at member
  obtain between | ⟨_, part, inside⟩ := mem_of_mem_intercalate member
  · exact line c between
  · obtain ⟨text, member, rfl⟩ := List.mem_map.mp part
    exact lines text member c inside

/-- Line feeds and carriage returns are escaped. -/
theorem isLine_escape (text : String) :
  IsLine (TraceJson.escape text)
  := by
  intro c member
  rw [toList_escape, List.mem_flatMap] at member
  obtain ⟨d, -, member⟩ := member
  unfold TraceJson.escapeChar at member
  split at member
  case h_6 backslash quotation feed carriage tab =>
    obtain rfl := List.mem_singleton.mp member
    exact ⟨feed, carriage⟩
  all_goals
    simp only [List.mem_cons, List.not_mem_nil, or_false] at member
    obtain rfl | rfl := member
    · decide
    · decide

theorem isLine_field {name : String} (literal : IsLiteral name) {value : String}
    (line : IsLine value) :
  IsLine (TraceJson.field name value)
  := by
  have opening : IsLine "\"" := by decide
  have closing : IsLine "\":" := by decide
  exact ((opening.append (isLine_of_visible literal.visible)).append closing).append line

theorem IsField.isLine {field : String} (is : IsField field m) :
  IsLine field
  := by
  have quotation : IsLine "\"" := by decide
  cases is with
  | visible literal writes visible => exact isLine_field literal (isLine_of_visible visible)
  | text literal text =>
    exact isLine_field literal ((quotation.append (isLine_escape text)).append quotation)

theorem isLine_object {fields : List String} (lines : ∀ field ∈ fields, IsLine field) :
  IsLine ("\x7b" ++ ",".intercalate fields ++ "\x7d")
  := by
  have opening : IsLine "\x7b" := by decide
  have comma : IsLine "," := by decide
  have closing : IsLine "\x7d" := by decide
  exact (opening.append (.intercalate comma lines)).append closing

end Json

end ForwardChaining
