import ForwardChaining.Proofs.Json.Spelling
import ForwardChaining.Proofs.Registry.Ownership
import ForwardChaining.Proofs.Trace.JsonTraces

/-!
# Records as lines

A record is one line of JSON, whatever the names of its facts and the texts of its event are
(`TraceRecord.json_unforged`): no other record has the same text, and the text has no line feed and
no carriage return.  Once the control characters that are not escaped are spelled out, the text
stands for what the record tells, so that no name or text takes the place of another field.
-/

namespace ForwardChaining

open Json

variable {registry : Registry} {names : FactId → String} {r r' : TraceRecord}
  {event event' : TraceEvent}

/-! ### Fields -/

theorem visible_nat (n : Nat) :
  IsVisible (toString n)
  := by
  intro c member
  exact Nat.le_of_lt (Numeral.lt_of_isDigit (Text.all_isDigit_toString n c member))

theorem visible_bool (b : Bool) :
  IsVisible (toString b)
  := by
  cases b with
  | _ => decide

theorem visible_ruleArray (rules : List RuleId) :
  IsVisible (TraceJson.ruleArray rules)
  := by
  have opening : IsVisible "[" := by decide
  have comma : IsVisible "," := by decide
  have closing : IsVisible "]" := by decide
  refine (opening.append ?_).append closing
  intro c member
  rw [String.toList_intercalate, List.map_map] at member
  obtain between | ⟨_, part, inside⟩ := mem_of_mem_intercalate member
  · exact comma c between
  · obtain ⟨rule, -, rfl⟩ := List.mem_map.mp part
    exact visible_nat rule.number c inside

/-- The fields of a record are its members. -/
theorem TraceRecord.isField_fields
    (named : ∀ fact ∈ r.event.facts, registry.name? fact = some (names fact)) :
  List.Forall₂ IsField (r.fields registry) (r.members names)
  := by
  apply fields_induction named
  case number =>
    exact fun name n literal => .visible literal (writes_nat n) (visible_nat n)
  case bool =>
    exact fun name b literal => .visible literal (writes_bool b) (visible_bool b)
  case rules =>
    intro name rules literal
    exact .visible literal (writes_ruleArray rules) (visible_ruleArray rules)
  case word =>
    have quotation : IsVisible "\"" := by decide
    intro name word literal spelt
    apply IsField.visible literal (writes_literal spelt)
    exact (quotation.append spelt.visible).append quotation
  case text => exact fun name text told literal => .text literal text

/-! ### Members -/

theorem RuleId.number_inj {rule rule' : RuleId} :
  rule.number = rule'.number ↔ rule = rule'
  := by
  obtain ⟨index⟩ := rule
  obtain ⟨index'⟩ := rule'
  rw [number, number, Nat.add_right_cancel_iff, mk.injEq]

theorem numbers_inj {rules rules' : List RuleId} :
  (rules.map fun rule => Json.number rule.number) = (rules'.map fun rule => .number rule.number)
    ↔ rules = rules'
  := by
  apply List.map_inj_right
  intro rule rule' same
  rw [number.injEq, Nat.cast_inj] at same
  exact RuleId.number_inj.mp same

/-- Events of one kind with the same members are equal, if their facts have different names. -/
theorem TraceEvent.eq_of_members
    (distinct : ∀ fact ∈ event.facts, ∀ fact' ∈ event'.facts, names fact = names fact' → fact = fact')
    (alike : event.kind = event'.kind) (same : event.members names = event'.members names) :
  event = event'
  := by
  cases event with
  | effectPerformed fact invocations =>
    cases event' with
    | effectPerformed fact' invocations' =>
      simp only [members, List.cons.injEq, Prod.mk.injEq, string.injEq, number.injEq, Nat.cast_inj,
        true_and, and_true] at same
      rw [distinct fact List.mem_cons_self fact' List.mem_cons_self same.1, same.2]
    | _ => simp [kind] at alike
  | factAsserted fact rule =>
    cases event' with
    | factAsserted fact' rule' =>
      simp only [members, List.cons.injEq, Prod.mk.injEq, string.injEq, number.injEq, Nat.cast_inj,
        RuleId.number_inj, true_and, and_true] at same
      rw [distinct fact List.mem_cons_self fact' List.mem_cons_self same.1, same.2]
    | _ => simp [kind] at alike
  | _ =>
    cases event' with
    | _ =>
      first
        | simp [kind] at alike
          done
        | simpa [members, RuleId.number_inj, numbers_inj] using same

/-- Records with the same members are equal, if their facts have different names. -/
theorem TraceRecord.eq_of_members
    (distinct : ∀ fact ∈ r.event.facts, ∀ fact' ∈ r'.event.facts,
      names fact = names fact' → fact = fact')
    (same : r.members names = r'.members names) :
  r = r'
  := by
  obtain ⟨id, pass, timestamp, event⟩ := r
  obtain ⟨id', pass', timestamp', event'⟩ := r'
  simp only [members, List.cons.injEq, Prod.mk.injEq, number.injEq, Nat.cast_inj, string.injEq,
    true_and] at same
  obtain ⟨rfl, rfl, rfl, alike, rest⟩ := same
  obtain rfl := TraceEvent.eq_of_members distinct alike rest
  rfl

/-! ### Lines -/

theorem name?_displayName {fact : FactId} (issued : registry.Issued fact) :
  registry.name? fact = some (registry.displayName fact)
  := by
  obtain ⟨name, named⟩ := Registries.issued_iff_exists_name?.mp issued
  rw [Registry.displayName, named]
  rfl

theorem TraceRecord.isLine_json
    (named : ∀ fact ∈ r.event.facts, registry.name? fact = some (names fact)) :
  IsLine (r.json registry)
  := by
  rw [json_eq]
  apply isLine_object
  intro field member
  obtain ⟨m, -, is⟩ := exists_of_mem_left (isField_fields named) member
  exact is.isLine

theorem TraceRecord.denotes_spell_json
    (named : ∀ fact ∈ r.event.facts, registry.name? fact = some (names fact)) :
  Denotes (spell (r.json registry)) (.object (r.members names))
  := denotes_spell_object (isField_fields named)

/-- Records about facts of the registry are written as one line each, which no other record is
written as; with its control characters spelled out, it stands for what the record tells and for
nothing else. -/
theorem TraceRecord.json_unforged (id : RegistryId) (requests : List Registry.Request)
    (r r' : TraceRecord)
    (issued : ∀ fact ∈ r.event.facts, ((Registry.empty id).after requests).Issued fact)
    (issued' : ∀ fact ∈ r'.event.facts, ((Registry.empty id).after requests).Issued fact) :
  let registry := (Registry.empty id).after requests
  (r.json registry = r'.json registry → r = r')
    ∧ IsLine (r.json registry)
    ∧ ∀ v, Denotes (spell (r.json registry)) v ↔ v = .object (r.members registry.displayName)
  := by
  intro registry
  have named := fun fact member => name?_displayName (issued fact member)
  have named' := fun fact member => name?_displayName (issued' fact member)
  have denotes := denotes_spell_json named
  have denotes' := denotes_spell_json named'
  refine ⟨?_, isLine_json named, ?_⟩
  · intro same
    have distinct : ∀ fact ∈ r.event.facts, ∀ fact' ∈ r'.event.facts,
        registry.displayName fact = registry.displayName fact' → fact = fact' := by
      intro fact member fact' member' alike
      apply (Registry.agrees_after id requests).eq_of_name? (named fact member)
      rw [alike]
      exact named' fact' member'
    rw [same] at denotes
    have members := denotes.unique denotes'
    rw [object.injEq] at members
    exact eq_of_members distinct members
  · intro v
    constructor
    · exact fun other => other.unique denotes
    · rintro rfl
      exact denotes

/-- The names of two facts, of which the first looks like further fields and another line. -/
def forgedNames : List String :=
  ["fog\",\"rule\":2\x7d\n\x7b\"id\":\"7", "fog\\"]

/-- The first fact is concluded by the first rule. -/
def forgedRecord : TraceRecord :=
  ⟨6, 1, 0, .factAsserted ⟨⟨0⟩, 0⟩ ⟨0⟩⟩

theorem TraceRecord.json_unforged_forged :
  let registry := (Registry.empty ⟨0⟩).after [.register forgedNames, .getAll forgedNames]
  (∀ index < 2, registry.Issued ⟨⟨0⟩, index⟩)
    ∧ IsLine (forgedRecord.json registry)
    ∧ forgedRecord.json registry
        ≠ json { forgedRecord with event := .factAsserted ⟨⟨0⟩, 1⟩ ⟨1⟩ } registry
    ∧ Denotes (spell (forgedRecord.json registry))
      (.object [("id", .number 6), ("pass", .number 1), ("timestamp_ns", .number 0),
        ("type", .string "fact-asserted"),
        ("fact", .string "fog\",\"rule\":2\x7d\n\x7b\"id\":\"7"), ("rule", .number 1)])
  := by
  intro registry
  have issued : ∀ index < 2, registry.Issued ⟨⟨0⟩, index⟩ := by decide +kernel
  obtain ⟨injective, line, denotes⟩ := json_unforged ⟨0⟩
    [.register forgedNames, .getAll forgedNames] forgedRecord
    { forgedRecord with event := .factAsserted ⟨⟨0⟩, 1⟩ ⟨1⟩ }
    (List.forall_mem_singleton.mpr (issued 0 (by decide)))
    (List.forall_mem_singleton.mpr (issued 1 (by decide)))
  refine ⟨issued, line, fun same => absurd (injective same) (by decide), (denotes _).mpr ?_⟩
  have name : registry.displayName ⟨⟨0⟩, 0⟩ = "fog\",\"rule\":2\x7d\n\x7b\"id\":\"7" := by
    decide +kernel
  simp [forgedRecord, members, TraceEvent.members, TraceEvent.kind, RuleId.number, registry, name]

end ForwardChaining
