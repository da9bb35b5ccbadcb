import ForwardChaining.Proofs.Json.Writing
import ForwardChaining.Proofs.Registry.Requests

/-!
# Traces as JSON

A record stands for an object whose members are its number, its pass, its time, its kind and what
its event is about, with facts by their names, and records stand for the array of these objects
(`TraceRecord.denotes_json_iff`).  They do so if each name and each text that the events tell is
plain: a control character other than a line feed, a carriage return or a tab is not escaped, and
what has one is no JSON at all.
-/

namespace ForwardChaining

/-! ### The values of records -/

namespace TraceEvent

variable (names : FactId → String)

/-- The fact that the event is about. -/
def facts : TraceEvent → List FactId
  | effectPerformed fact _ | factAsserted fact _ => [fact]
  | _ => []

/-- The texts that the event tells. -/
def texts : TraceEvent → List String
  | effectPerformed fact _ | factAsserted fact _ => [names fact]
  | custom name data => [name, data]
  | _ => []

/-- What the event is about, by names. -/
def members : TraceEvent → List (String × Json)
  | runStart rules inputs => [("rules", .number rules), ("inputs", .number inputs)]
  | passStart pass => [("pass", .number pass)]
  | passEnd pass fired => [("pass", .number pass), ("fired", .number fired)]
  | ruleExamined rule performing =>
    [("rule", .number rule.number), ("performing", .bool performing)]
  | ruleFired rule => [("rule", .number rule.number)]
  | effectPerformed fact invocations =>
    [("fact", .string (names fact)), ("invocations", .number invocations)]
  | factAsserted fact rule => [("fact", .string (names fact)), ("rule", .number rule.number)]
  | runSucceeded steps => [("steps", .number steps)]
  | runFailed unsatisfied =>
    [("unsatisfied", .array (unsatisfied.map fun rule => .number rule.number))]
  | custom name data => [("name", .string name), ("data", .string data)]

end TraceEvent

/-- What the record tells, by names. -/
def TraceRecord.members (names : FactId → String) (r : TraceRecord) : List (String × Json) :=
  ("id", .number r.id) :: ("pass", .number r.pass) :: ("timestamp_ns", .number r.timestamp)
    :: ("type", .string r.event.kind) :: r.event.members names

variable {registry : Registry} {names : FactId → String}

/-! ### Plain texts -/

open Json

theorem displayName_of_named {fact : FactId} (named : registry.name? fact = some (names fact)) :
  registry.displayName fact = names fact
  := by
  rw [Registry.displayName, named]
  rfl

theorem writes_ruleArray (rules : List RuleId) :
  Writes (TraceJson.ruleArray rules) (.array (rules.map fun rule => .number rule.number))
  := by
  apply writes_array [] [] [] rfl rfl rfl (List.forall_mem_nil _) (List.forall_mem_nil _)
    (List.forall_mem_nil _)
  rw [List.forall₂_map_left_iff, List.forall₂_map_right_iff, List.forall₂_same]
  intro rule member
  exact writes_nat rule.number

theorem isLiteral_kind (event : TraceEvent) :
  IsLiteral event.kind
  := by
  cases event with
  | _ =>
    rw [TraceEvent.kind]
    decide

/-- The fields of a record, in order. -/
def TraceRecord.fields (registry : Registry) (r : TraceRecord) : List String :=
  [ TraceJson.field "id" (toString r.id),
    TraceJson.field "pass" (toString r.pass),
    TraceJson.field "timestamp_ns" (toString r.timestamp),
    TraceJson.field "type" ("\"" ++ r.event.kind ++ "\"") ]
    ++ TraceJson.eventFields registry r.event

theorem TraceRecord.json_eq (r : TraceRecord) (registry : Registry) :
  r.json registry = "\x7b" ++ ",".intercalate (r.fields registry) ++ "\x7d"
  := rfl

/-- What a field and its member have in common, whatever a record tells, they have in common in
each record: the value is a number, a truth value, an array of rules, a word, or a text that the
event tells. -/
theorem TraceRecord.fields_induction {R : String → String × Json → Prop} {r : TraceRecord}
    (named : ∀ fact ∈ r.event.facts, registry.name? fact = some (names fact))
    (number : ∀ (name : String) (n : Nat), IsLiteral name →
      R (TraceJson.field name (toString n)) (name, .number n))
    (bool : ∀ (name : String) (b : Bool), IsLiteral name →
      R (TraceJson.field name (toString b)) (name, .bool b))
    (rules : ∀ (name : String) (rules : List RuleId), IsLiteral name →
      R (TraceJson.field name (TraceJson.ruleArray rules))
        (name, .array (rules.map fun rule => .number rule.number)))
    (word : ∀ name word : String, IsLiteral name → IsLiteral word →
      R (TraceJson.field name ("\"" ++ word ++ "\"")) (name, .string word))
    (text : ∀ name : String, ∀ text ∈ r.event.texts names, IsLiteral name →
      R (TraceJson.field name (TraceJson.text text)) (name, .string text)) :
  List.Forall₂ R (r.fields registry) (r.members names)
  := by
  apply List.Forall₂.cons (number "id" r.id (by decide))
  apply List.Forall₂.cons (number "pass" r.pass (by decide))
  apply List.Forall₂.cons (number "timestamp_ns" r.timestamp (by decide))
  apply List.Forall₂.cons (word "type" r.event.kind (by decide) (isLiteral_kind r.event))
  cases event : r.event with
  | runStart rules inputs =>
    exact .cons (number "rules" rules (by decide)) (.cons (number "inputs" inputs (by decide)) .nil)
  | passStart pass => exact .cons (number "pass" pass (by decide)) .nil
  | passEnd pass fired =>
    exact .cons (number "pass" pass (by decide)) (.cons (number "fired" fired (by decide)) .nil)
  | ruleExamined rule performing =>
    exact .cons (number "rule" rule.number (by decide))
      (.cons (bool "performing" performing (by decide)) .nil)
  | ruleFired rule => exact .cons (number "rule" rule.number (by decide)) .nil
  | effectPerformed fact invocations =>
    rw [event] at named text
    have told := displayName_of_named (named fact List.mem_cons_self)
    change List.Forall₂ R (TraceJson.eventFields registry (.effectPerformed fact invocations)) _
    rw [TraceJson.eventFields, told]
    exact .cons (text "fact" (names fact) List.mem_cons_self (by decide))
      (.cons (number "invocations" invocations (by decide)) .nil)
  | factAsserted fact rule =>
    rw [event] at named text
    have told := displayName_of_named (named fact List.mem_cons_self)
    change List.Forall₂ R (TraceJson.eventFields registry (.factAsserted fact rule)) _
    rw [TraceJson.eventFields, told]
    exact .cons (text "fact" (names fact) List.mem_cons_self (by decide))
      (.cons (number "rule" rule.number (by decide)) .nil)
  | runSucceeded steps => exact .cons (number "steps" steps (by decide)) .nil
  | runFailed unsatisfied => exact .cons (rules "unsatisfied" unsatisfied (by decide)) .nil
  | custom name data =>
    rw [event] at text
    exact .cons (text "name" name List.mem_cons_self (by decide))
      (.cons (text "data" data (List.mem_cons_of_mem _ List.mem_cons_self) (by decide)) .nil)

/-- A record whose texts are plain stands for its members. -/
theorem TraceRecord.writes_json {r : TraceRecord}
    (named : ∀ fact ∈ r.event.facts, registry.name? fact = some (names fact))
    (plain : ∀ text ∈ r.event.texts names, IsPlain text) :
  Writes (r.json registry) (.object (r.members names))
  := by
  rw [json_eq]
  apply writes_object
  apply fields_induction named
  case number => exact fun name n literal => writesField literal (writes_nat n)
  case bool => exact fun name b literal => writesField literal (writes_bool b)
  case rules => exact fun name rules literal => writesField literal (writes_ruleArray rules)
  case word => exact fun name word literal spelt => writesField literal (writes_literal spelt)
  case text => exact fun name text told literal => writesField literal (writes_text (plain text told))

theorem TraceRecord.writes_jsonArray {records : List TraceRecord} (pretty : Bool)
    (named : ∀ r ∈ records, ∀ fact ∈ r.event.facts, registry.name? fact = some (names fact))
    (plain : ∀ r ∈ records, ∀ text ∈ r.event.texts names, IsPlain text) :
  Writes (jsonArray records registry pretty)
    (.array (records.map fun r => .object (r.members names)))
  := by
  have items : List.Forall₂ Writes (records.map (·.json registry))
      (records.map fun r => .object (r.members names)) := by
    rw [List.forall₂_map_left_iff, List.forall₂_map_right_iff, List.forall₂_same]
    intro r member
    exact writes_json (named r member) (plain r member)
  cases pretty with
  | false =>
    exact writes_array [] [] [] rfl rfl rfl (List.forall_mem_nil _) (List.forall_mem_nil _)
      (List.forall_mem_nil _) items
  | true =>
    exact writes_array ['\n', ' ', ' '] ['\n', ' ', ' '] ['\n'] rfl rfl rfl (by simp [isSpace])
      (by simp [isSpace]) (by simp [isSpace]) items

/-! ### Control characters -/

theorem mem_intercalate {glue : List Char} {lists : List (List Char)} {l : List Char} {c : Char}
    (part : l ∈ lists) (member : c ∈ l) :
  c ∈ glue.intercalate lists
  := by
  induction lists with
  | nil => cases part
  | cons first rest ih =>
    cases rest with
    | nil =>
      rw [List.mem_singleton] at part
      rw [List.intercalate_singleton, ← part]
      exact member
    | cons next rest =>
      rw [List.intercalate_cons_cons, List.mem_append, List.mem_append]
      obtain rfl | part := List.mem_cons.mp part
      · exact Or.inl (Or.inl member)
      · exact Or.inr (ih part)

/-- Each text that an event tells is the value of one of its fields. -/
theorem exists_eventField {event : TraceEvent}
    (named : ∀ fact ∈ event.facts, registry.name? fact = some (names fact)) {text : String}
    (told : text ∈ event.texts names) :
  ∃ name, TraceJson.field name (TraceJson.text text) ∈ TraceJson.eventFields registry event
  := by
  cases event with
  | effectPerformed fact invocations =>
    obtain rfl := List.mem_singleton.mp told
    rw [TraceJson.eventFields, displayName_of_named (named fact List.mem_cons_self)]
    exact ⟨"fact", List.mem_cons_self⟩
  | factAsserted fact rule =>
    obtain rfl := List.mem_singleton.mp told
    rw [TraceJson.eventFields, displayName_of_named (named fact List.mem_cons_self)]
    exact ⟨"fact", List.mem_cons_self⟩
  | custom name data =>
    obtain rfl | told := List.mem_cons.mp told
    · exact ⟨"name", List.mem_cons_self⟩
    · obtain rfl := List.mem_singleton.mp told
      exact ⟨"data", List.mem_cons_of_mem _ List.mem_cons_self⟩
  | _ => cases told

/-- If all characters of a record may stand in a JSON text, the texts that it tells are plain. -/
theorem TraceRecord.isPlain_of_json {r : TraceRecord}
    (named : ∀ fact ∈ r.event.facts, registry.name? fact = some (names fact))
    (allowed : ∀ c ∈ (r.json registry).toList, IsAllowed c) :
  ∀ text ∈ r.event.texts names, IsPlain text
  := by
  intro text told
  obtain ⟨name, field⟩ := exists_eventField named told
  apply isPlain_of_escape
  intro c member
  apply allowed
  have inside : c ∈ (TraceJson.field name (TraceJson.text text)).toList := by
    simp [TraceJson.field, TraceJson.text, member]
  rw [TraceRecord.json, String.toList_append, String.toList_append, String.toList_intercalate]
  apply List.mem_append_left
  apply List.mem_append_right
  apply mem_intercalate _ inside
  exact List.mem_map_of_mem (List.mem_append_right _ field)

theorem TraceRecord.mem_jsonArray {records : List TraceRecord} {r : TraceRecord} {c : Char}
    (pretty : Bool) (part : r ∈ records) (member : c ∈ (r.json registry).toList) :
  c ∈ (jsonArray records registry pretty).toList
  := by
  have item : (r.json registry).toList ∈ (records.map (·.json registry)).map String.toList :=
    List.mem_map_of_mem (List.mem_map_of_mem part)
  unfold jsonArray
  dsimp only
  split
  · rw [String.toList_append, String.toList_append, String.toList_intercalate]
    exact List.mem_append_left _ (List.mem_append_right _ (mem_intercalate item member))
  · rw [String.toList_append, String.toList_append, String.toList_intercalate]
    exact List.mem_append_left _ (List.mem_append_right _ (mem_intercalate item member))

/-! ### Records -/

/-- The members of a record have different names, unless its event opens or closes a pass: that
pass has the name of the record's. -/
theorem TraceRecord.nodup_members_iff (r : TraceRecord) :
  ((r.members names).map Prod.fst).Nodup ↔ r.event.isPassBoundary = false
  := by
  cases event : r.event with
  | _ => simp [TraceRecord.members, TraceEvent.members, TraceEvent.isPassBoundary, event]

/-- Records, each on its own and all together, stand for what they tell if their texts are plain,
and for nothing otherwise. -/
theorem TraceRecord.denotes_json_iff (registry : Registry) (names : FactId → String)
    (records : List TraceRecord)
    (named : ∀ r ∈ records, ∀ fact ∈ r.event.facts, registry.name? fact = some (names fact)) :
  (∀ r ∈ records, ∀ v, Denotes (r.json registry) v
      ↔ (∀ text ∈ r.event.texts names, IsPlain text) ∧ v = .object (r.members names))
    ∧ (∀ pretty v, Denotes (jsonArray records registry pretty) v
      ↔ (∀ r ∈ records, ∀ text ∈ r.event.texts names, IsPlain text)
        ∧ v = .array (records.map fun r => .object (r.members names)))
    ∧ ∀ r ∈ records, ((r.members names).map Prod.fst).Nodup ↔ r.event.isPassBoundary = false
  := by
  refine ⟨?_, ?_, fun r _ => r.nodup_members_iff⟩
  · intro r member v
    constructor
    · intro denotes
      have plain := isPlain_of_json (named r member) denotes.isAllowed
      exact ⟨plain, denotes.unique (writes_json (named r member) plain).denotes⟩
    · rintro ⟨plain, rfl⟩
      exact (writes_json (named r member) plain).denotes
  · intro pretty v
    constructor
    · intro denotes
      have plain : ∀ r ∈ records, ∀ text ∈ r.event.texts names, IsPlain text := by
        intro r member
        apply isPlain_of_json (named r member)
        exact fun c inside => denotes.isAllowed c (mem_jsonArray pretty member inside)
      exact ⟨plain, denotes.unique (writes_jsonArray pretty named plain).denotes⟩
    · rintro ⟨plain, rfl⟩
      exact (writes_jsonArray pretty named plain).denotes

/-- A registry of two facts, of which the first has a control character in its name. -/
def quaint : Registry :=
  (Registry.empty ⟨0⟩).after [.register ["a\x01b", "say \"no\""], .getAll ["a\x01b", "say \"no\""]]

/-- A text of two lines, and a name with quotation marks. -/
def quaintRecords : List TraceRecord :=
  [⟨4, 1, 0, .custom "note" "one\n\\two"⟩, ⟨5, 1, 7, .factAsserted ⟨⟨0⟩, 1⟩ ⟨0⟩⟩]

theorem TraceRecord.denotes_json_iff_quaint :
  (∀ r ∈ quaintRecords, ∀ fact ∈ r.event.facts,
      quaint.name? fact = some (quaint.displayName fact))
    ∧ Denotes (jsonArray quaintRecords quaint true)
      (.array
        [ .object [("id", .number 4), ("pass", .number 1), ("timestamp_ns", .number 0),
            ("type", .string "custom"), ("name", .string "note"), ("data", .string "one\n\\two")],
          .object [("id", .number 5), ("pass", .number 1), ("timestamp_ns", .number 7),
            ("type", .string "fact-asserted"), ("fact", .string "say \"no\""),
            ("rule", .number 1)] ])
  := by
  have named : ∀ r ∈ quaintRecords, ∀ fact ∈ r.event.facts,
      quaint.name? fact = some (quaint.displayName fact) := by decide +kernel
  have name : quaint.displayName ⟨⟨0⟩, 1⟩ = "say \"no\"" := by decide +kernel
  obtain ⟨-, all, -⟩ := denotes_json_iff quaint quaint.displayName quaintRecords named
  refine ⟨named, (all true _).mpr ⟨by decide +kernel, ?_⟩⟩
  simp [quaintRecords, TraceRecord.members, TraceEvent.members, TraceEvent.kind, RuleId.number,
    name]

/-- The name of a fact can keep its record from being JSON. -/
theorem TraceRecord.not_denotes_json_quaint :
  quaint.name? ⟨⟨0⟩, 0⟩ = some "a\x01b"
    ∧ ¬∃ v, Denotes (json ⟨0, 0, 0, .factAsserted ⟨⟨0⟩, 0⟩ ⟨0⟩⟩ quaint) v
  := by
  apply And.intro (by decide +kernel)
  rintro ⟨v, denotes⟩
  have raw : '\x01' ∈ (json ⟨0, 0, 0, .factAsserted ⟨⟨0⟩, 0⟩ ⟨0⟩⟩ quaint).toList := by
    decide +kernel
  exact absurd (denotes.isAllowed '\x01' raw) (by decide)

end ForwardChaining
