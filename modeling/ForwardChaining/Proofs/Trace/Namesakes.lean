import ForwardChaining.Proofs.Solver.Namesakes
import ForwardChaining.Trace.Tracer

/-!
# Traces of solvers that match

Tracers with the same settings that are told of solvers that match make records that read alike:
facts are written by name, so that a record does not show which handle it holds.  All that the
records can differ in is the time.  `Retimed` says of texts that they differ in no more than that.
-/

namespace ForwardChaining

/-! ### Time stamps -/

/-- The texts are the same, but for time stamps that are related. -/
inductive Retimed (T : Nat → Nat → Prop) : String → String → Prop where
  | same (text : String) : Retimed T text text
  | stamp {m n : Nat} (related : T m n) :
    Retimed T (TraceJson.field "timestamp_ns" (toString m))
      (TraceJson.field "timestamp_ns" (toString n))
  | append {a b c d : String} (first : Retimed T a b) (second : Retimed T c d) :
    Retimed T (a ++ c) (b ++ d)

variable {T : Nat → Nat → Prop}

theorem Retimed.of_eq {a b : String} (same : a = b) :
  Retimed T a b
  := same ▸ .same a

/-- At the same times the texts are the same. -/
theorem Retimed.eq {a b : String} (retimed : Retimed Eq a b) :
  a = b
  := by
  induction retimed with
  | same text => rfl
  | stamp related => rw [related]
  | append _ _ first second => rw [first, second]

theorem Retimed.intercalate {texts texts' : List String} (separator : String)
    (together : List.Forall₂ (Retimed T) texts texts') :
  Retimed T (separator.intercalate texts) (separator.intercalate texts')
  := by
  induction together with
  | nil => exact .same ""
  | cons first rest ih =>
    cases rest with
    | nil =>
      rw [String.intercalate_singleton, String.intercalate_singleton]
      exact first
    | cons second rest =>
      rw [String.intercalate_cons_cons, String.intercalate_cons_cons]
      exact .append (.append first (.same separator)) ih

/-! ### Records -/

variable {r q : Registry}

/-- The events are written in the same way, each with the names of its registry. -/
structure TraceEvent.ReadsAs (r q : Registry) (e e' : TraceEvent) : Prop where
  kind : e.kind = e'.kind
  describe : e.describe r = e'.describe q
  fields : TraceJson.eventFields r e = TraceJson.eventFields q e'

theorem TraceEvent.readsAs_effectPerformed {f g : FactId} (related : r.Same q f g)
    (invocations : Nat) :
  (effectPerformed f invocations).ReadsAs r q (effectPerformed g invocations)
  := by
  refine ⟨rfl, ?_, ?_⟩
  · unfold describe
    dsimp only
    rw [related.displayName_eq]
  · rw [TraceJson.eventFields, TraceJson.eventFields, related.displayName_eq]

theorem TraceEvent.readsAs_factAsserted {f g : FactId} (related : r.Same q f g) (rule : RuleId) :
  (factAsserted f rule).ReadsAs r q (factAsserted g rule)
  := by
  refine ⟨rfl, ?_, ?_⟩
  · unfold describe
    dsimp only
    rw [related.displayName_eq]
  · rw [TraceJson.eventFields, TraceJson.eventFields, related.displayName_eq]

/-- The records are of events that read alike, and were made at times that are related. -/
structure TraceRecord.Matches (T : Nat → Nat → Prop) (r q : Registry) (a b : TraceRecord) :
    Prop where
  id : a.id = b.id
  pass : a.pass = b.pass
  timestamp : T a.timestamp b.timestamp
  event : a.event.ReadsAs r q b.event

namespace TraceRecord.Matches

variable {a b : TraceRecord}

theorem line_eq (same : a.Matches T r q b) :
  a.line r = b.line q
  := by
  rw [line, line, same.id, same.pass, same.event.describe]
  rfl

theorem namelessLine_eq (same : a.Matches T r q b) :
  a.namelessLine = b.namelessLine
  := by
  rw [namelessLine, namelessLine, same.id, same.pass, same.event.kind]

theorem json (same : a.Matches T r q b) :
  Retimed T (a.json r) (b.json q)
  := by
  have fields : List.Forall₂ (Retimed T)
      ([ TraceJson.field "id" (toString a.id),
        TraceJson.field "pass" (toString a.pass),
        TraceJson.field "timestamp_ns" (toString a.timestamp),
        TraceJson.field "type" ("\"" ++ a.event.kind ++ "\"") ]
        ++ TraceJson.eventFields r a.event)
      ([ TraceJson.field "id" (toString b.id),
        TraceJson.field "pass" (toString b.pass),
        TraceJson.field "timestamp_ns" (toString b.timestamp),
        TraceJson.field "type" ("\"" ++ b.event.kind ++ "\"") ]
        ++ TraceJson.eventFields q b.event) := by
    rw [same.id, same.pass, same.event.kind, same.event.fields]
    apply List.rel_append
    · exact .cons (.same _) (.cons (.same _) (.cons (.stamp same.timestamp)
        (.cons (.same _) .nil)))
    · exact List.forall₂_same.mpr fun text _ => .same text
  exact .append (.append (.same _) (.intercalate "," fields)) (.same _)

end TraceRecord.Matches

/-! ### Buffers -/

/-- The buffers keep as many records, and keep records that match. -/
structure TraceBuffer.Matches (T : Nat → Nat → Prop) (r q : Registry) (b c : TraceBuffer) :
    Prop where
  records : List.Forall₂ (TraceRecord.Matches T r q) b.records c.records
  maxSize : b.maxSize = c.maxSize
  nextId : b.nextId = c.nextId
  perPass : b.perPass = c.perPass

namespace TraceBuffer.Matches

variable {b c : TraceBuffer}

theorem size_eq (same : b.Matches T r q c) :
  b.log.size = c.log.size
  := by
  rw [← Log.length_toList, ← Log.length_toList]
  apply same.records.length_eq

theorem latest?_cases (same : b.Matches T r q c) :
  (b.latest? = none ∧ c.latest? = none)
    ∨ ∃ x y, b.latest? = some x ∧ c.latest? = some y ∧ x.Matches T r q y
  := by
  rw [latest?, latest?, Log.latest?_eq, Log.latest?_eq, List.getLast?_eq_getElem?,
    List.getLast?_eq_getElem?, Log.length_toList, Log.length_toList, same.size_eq]
  apply getElem?_cases_of_together same.records

theorem dropOldest (same : b.Matches T r q c) :
  b.dropOldest.Matches T r q c.dropOldest
  := by
  have first := getElem?_cases_of_together same.records 0
  rw [← List.head?_eq_getElem?, ← List.head?_eq_getElem?, TraceBuffer.records,
    TraceBuffer.records, ← Log.oldest?_eq, ← Log.oldest?_eq] at first
  rw [TraceBuffer.dropOldest, TraceBuffer.dropOldest]
  obtain ⟨none, none'⟩ | ⟨x, y, found, found', oldest⟩ := first
  · rw [none, none']
    exact same
  · rw [found, found']
    refine ⟨?_, same.maxSize, same.nextId, ?_⟩
    · rw [TraceBuffer.records, TraceBuffer.records, Log.toList_dropOldest, Log.toList_dropOldest,
        ← List.drop_one, ← List.drop_one]
      apply List.forall₂_drop 1 same.records
    · dsimp only
      rw [oldest.pass, same.perPass]

theorem trim (same : b.Matches T r q c) :
  b.trim.Matches T r q c.trim
  := by
  rw [TraceBuffer.trim, TraceBuffer.trim, same.size_eq, same.maxSize]
  generalize c.log.size - c.maxSize = n
  induction n with
  | zero => exact same
  | succ n ih => exact ih.dropOldest

theorem push {time time' : Nat} {e e' : TraceEvent} (same : b.Matches T r q c) (pass : Nat)
    (clock : T time time') (event : e.ReadsAs r q e') :
  (b.push pass time e).Matches T r q (c.push pass time' e')
  := by
  apply trim
  constructor
  · rw [TraceBuffer.records, TraceBuffer.records, Log.toList_push, Log.toList_push]
    exact List.rel_append same.records (.cons ⟨same.nextId, rfl, clock, event⟩ .nil)
  · exact same.maxSize
  · exact congrArg (· + 1) same.nextId
  · exact congrArg (·.add pass) same.perPass

theorem clear (same : b.Matches T r q c) :
  b.clear.Matches T r q c.clear
  := { same with
    records := .nil
    perPass := rfl }

theorem recent (same : b.Matches T r q c) (count : Nat) :
  List.Forall₂ (TraceRecord.Matches T r q) (b.recent count) (c.recent count)
  := by
  rw [TraceBuffer.recent, TraceBuffer.recent, Log.latest_eq, Log.latest_eq, same.size_eq]
  apply List.forall₂_drop _ same.records

end TraceBuffer.Matches

/-! ### Tracers -/

/-- The tracers have the same settings, have noted the same of a run, and have made records and
written lines that are the same but for their times. -/
structure Tracer.Matches (T : Nat → Nat → Prop) (r q : Registry) (t u : Tracer) : Prop where
  config : t.config = u.config
  buffer : t.buffer.Matches T r q u.buffer
  clock : T t.clock u.clock
  currentPass : t.currentPass = u.currentPass
  firedInPass : t.firedInPass = u.firedInPass
  started : t.started = u.started
  finished : t.finished = u.finished
  written : List.Forall₂ (fun a b => a.1 = b.1 ∧ Retimed T a.2 b.2) t.written.toList
    u.written.toList

namespace Tracer

variable {t u : Tracer} {s s' : Solver}

theorem matches_create (config : TracerConfig) (zero : T 0 0) :
  (create config).Matches T r q (create config)
  where
  config := rfl
  buffer := ⟨.nil, rfl, rfl, rfl⟩
  clock := zero
  currentPass := rfl
  firedInPass := rfl
  started := rfl
  finished := rfl
  written := .nil

/-- What is asserted is told of by events that read alike. -/
theorem assertionEvents_together {f g : FactId} (same : s.Matches r q s') (rule : RuleId)
    (related : r.Same q f g) :
  List.Forall₂ (TraceEvent.ReadsAs r q) (assertionEvents s rule f) (assertionEvents s' rule g)
  := by
  obtain ⟨left, right, there, there', -, settings⟩ := same.alike.exists_facts related
  have effect : left.effect = right.effect := congrArg FactSettings.effect settings
  have count : left.repeatCount = right.repeatCount := congrArg FactSettings.repeatCount settings
  have asserted := TraceEvent.readsAs_factAsserted related rule
  rw [assertionEvents, assertionEvents, same.left, same.right, there, there', Option.filter_some,
    Option.filter_some, effect]
  cases right.effect.isSome with
  | false => exact .cons asserted .nil
  | true =>
    refine .cons ?_ (.cons asserted .nil)
    rw [count]
    apply TraceEvent.readsAs_effectPerformed related

namespace Matches

theorem setEnabled (same : t.Matches T r q u) (enabled : Bool) :
  (t.setEnabled enabled).Matches T r q (u.setEnabled enabled)
  := { same with
    config := congrArg (fun config => { config with enabled := enabled }) same.config }

theorem setJson (same : t.Matches T r q u) (json : Bool) :
  (t.setJson json).Matches T r q (u.setJson json)
  := { same with
    config := congrArg (fun config => { config with json := json }) same.config }

theorem clear (same : t.Matches T r q u) :
  t.clear.Matches T r q u.clear
  := { same with buffer := same.buffer.clear }

theorem atTime {m n : Nat} (same : t.Matches T r q u) (related : T m n) :
  (t.atTime m).Matches T r q (u.atTime n)
  := { same with clock := related }

/-! ### Formats -/

theorem format {a b : TraceRecord} (same : t.Matches T r q u) (record : a.Matches T r q b) :
  Retimed T (t.format a r) (u.format b q)
  := by
  rw [Tracer.format, Tracer.format, same.config]
  split
  · exact record.json
  · exact .of_eq record.line_eq

theorem formatAll {records records' : List TraceRecord} (same : t.Matches T r q u)
    (together : List.Forall₂ (TraceRecord.Matches T r q) records records') :
  Retimed T (t.formatAll records r) (u.formatAll records' q)
  := by
  rw [Tracer.formatAll, Tracer.formatAll, same.config]
  split
  · rw [TraceRecord.jsonArray, TraceRecord.jsonArray]
    apply Retimed.append (.append (.same _) (.intercalate "," _)) (.same _)
    apply List.rel_map _ together
    intro a b record
    exact record.json
  · apply Retimed.of_eq
    rw [TraceRecord.lines, TraceRecord.lines,
      map_eq_of_together together fun _ _ => TraceRecord.Matches.line_eq]

/-! ### Recording -/

theorem write {line line' : String} (same : t.Matches T r q u) (output : TraceOutput)
    (retimed : Retimed T line line') :
  Tracer.Matches T r q { t with written := t.written.push (output, line) }
    { u with written := u.written.push (output, line') }
  := { same with
    written := by
      rw [Log.toList_push, Log.toList_push]
      exact List.rel_append same.written (.cons ⟨rfl, retimed⟩ .nil) }

/-- Tracers that match still match after an event that reads alike. -/
theorem emit {registry registry' : Option Registry} {e e' : TraceEvent} (same : t.Matches T r q u)
    (lines : ∀ a b, a.Matches T r q b → Retimed T (t.lineFor registry a) (u.lineFor registry' b))
    (event : e.ReadsAs r q e') :
  (t.emit registry e).Matches T r q (u.emit registry' e')
  := by
  have admits : t.admits e = u.admits e' := by
    rw [admits, admits, same.config, event.kind]
  have output : t.config.output = u.config.output := by rw [same.config]
  have pushed : Tracer.Matches T r q
      { t with buffer := t.buffer.push t.currentPass t.clock e }
      { u with buffer := u.buffer.push u.currentPass u.clock e' } := by
    rw [same.currentPass]
    exact { same with
      buffer := same.buffer.push u.currentPass same.clock event
      currentPass := rfl }
  rw [Tracer.emit, Tracer.emit, admits]
  split
  · dsimp only
    obtain ⟨none, none'⟩ | ⟨a, b, found, found', latest⟩ := pushed.buffer.latest?_cases
    · rw [output, none, none']
      cases u.config.output <;> exact pushed
    · rw [output, found, found']
      cases u.config.output with
      | none => exact pushed
      | stderr => exact pushed.write .stderr (lines a b latest)
      | stdout => exact pushed.write .stdout (lines a b latest)
  · exact same

theorem emit_named {e e' : TraceEvent} (same : t.Matches T r q u) (event : e.ReadsAs r q e') :
  (t.emit (some r) e).Matches T r q (u.emit (some q) e')
  := same.emit (fun _ _ record => same.format record) event

theorem emitAll {events events' : List TraceEvent} (same : t.Matches T r q u)
    (together : List.Forall₂ (TraceEvent.ReadsAs r q) events events') :
  (t.emitAll r events).Matches T r q (u.emitAll q events')
  := by
  induction together generalizing t u with
  | nil => exact same
  | cons first _ ih => apply ih (same.emit_named first)

theorem record {e e' : TraceEvent} (same : t.Matches T r q u) (event : e.ReadsAs r q e') :
  (t.record e).Matches T r q (u.record e')
  := by
  rw [Tracer.record, Tracer.record, same.config]
  split
  · exact same.emit (fun _ _ record => .of_eq record.namelessLine_eq) event
  · exact same

/-! ### What a tracer is told of a run -/

theorem start (same : t.Matches T r q u) (solver : s.Matches r q s') (inputs : Nat) :
  (t.start s inputs).Matches T r q (u.start s' inputs)
  := by
  have size : s.rules.size = s'.rules.size := solver.rules.length_eq
  rw [Tracer.start, Tracer.start, solver.left, solver.right, solver.iteration, size]
  apply emitAll
  · exact { same with
      currentPass := rfl
      firedInPass := rfl
      started := rfl
      finished := rfl }
  · exact .cons ⟨rfl, rfl, rfl⟩ (.cons ⟨rfl, rfl, rfl⟩ .nil)

theorem turnPass (same : t.Matches T r q u) (solver : s.Matches r q s') :
  (t.turnPass s).Matches T r q (u.turnPass s')
  := by
  have last : (s.isTerminal || s.pending.isEmpty) = (s'.isTerminal || s'.pending.isEmpty) := by
    rw [Solver.isTerminal, Solver.isTerminal, solver.status, solver.pending]
  have ended := same.emit_named (e := .passEnd u.currentPass u.firedInPass) ⟨rfl, rfl, rfl⟩
  have turned : Tracer.Matches T r q
      { t.emit (some r) (.passEnd u.currentPass u.firedInPass) with
        currentPass := s'.iteration, firedInPass := 0 }
      { u.emit (some q) (.passEnd u.currentPass u.firedInPass) with
        currentPass := s'.iteration, firedInPass := 0 } :=
    { ended with
      currentPass := rfl
      firedInPass := rfl }
  rw [Tracer.turnPass, Tracer.turnPass, solver.left, solver.right, solver.iteration,
    same.currentPass, same.firedInPass, last]
  split
  · exact same
  · dsimp only
    split
    · exact turned
    · exact turned.emit_named ⟨rfl, rfl, rfl⟩

theorem finish {e e' : TraceEvent} (same : t.Matches T r q u) (solver : s.Matches r q s')
    (event : e.ReadsAs r q e') :
  (t.finish s e).Matches T r q (u.finish s' e')
  := by
  rw [Tracer.finish, Tracer.finish, solver.left, solver.right, same.finished]
  split
  · exact same
  · apply emit_named _ event
    exact { same with finished := rfl }

theorem examinationEvents_together {a b : Examination} (solver : s.Matches r q s')
    (rule : a.rule = b.rule) (performing : a.performing = b.performing)
    (asserted : List.Forall₂ (r.Same q) a.asserted b.asserted) :
  List.Forall₂ (TraceEvent.ReadsAs r q) (examinationEvents s a) (examinationEvents s' b)
  := by
  rw [examinationEvents, examinationEvents, performing, rule]
  split
  · apply List.rel_append
    · exact .cons ⟨rfl, rfl, rfl⟩ (.cons ⟨rfl, rfl, rfl⟩ .nil)
    · apply List.rel_flatMap asserted
      intro f g related
      apply assertionEvents_together solver b.rule related
  · exact .cons ⟨rfl, rfl, rfl⟩ .nil

theorem observeStarted {o o' : Outcome} (same : t.Matches T r q u) (solver : s.Matches r q s')
    (outcome : o.Matches (r.Same q) o') :
  (t.observeStarted s o).Matches T r q (u.observeStarted s' o')
  := by
  cases outcome with
  | examined asserted =>
    rw [Tracer.observeStarted, Tracer.observeStarted, solver.left, solver.right,
      same.firedInPass]
    apply turnPass _ solver
    apply emitAll
    · exact { same with firedInPass := rfl }
    · exact examinationEvents_together solver rfl rfl asserted
  | succeeded =>
    rw [Tracer.observeStarted, Tracer.observeStarted, solver.steps]
    exact same.finish solver ⟨rfl, rfl, rfl⟩
  | failed deadlock => exact same.finish solver ⟨rfl, rfl, rfl⟩

/-- Tracers that match still match after they were told of outcomes that match. -/
theorem observe {o o' : Outcome} (same : t.Matches T r q u) (solver : s.Matches r q s')
    (outcome : o.Matches (r.Same q) o') :
  (t.observe s o).Matches T r q (u.observe s' o')
  := by
  have asserted : o.examination?.elim 0 (·.asserted.length)
      = o'.examination?.elim 0 (·.asserted.length) := by
    cases outcome with
    | examined asserted => exact asserted.length_eq
    | succeeded => rfl
    | failed deadlock => rfl
  rw [Tracer.observe, Tracer.observe, same.config, same.started, solver.memory.size_eq, asserted]
  split
  · apply observeStarted _ solver outcome
    split
    · exact same
    · exact same.start solver _
  · exact same

theorem rewound (same : t.Matches T r q u) (solver : s.Matches r q s') (step : Nat) :
  (t.rewound s step).Matches T r q (u.rewound s' step)
  := by
  apply record
  · exact { same with
      currentPass := solver.iteration
      firedInPass := rfl
      finished := congrArg Status.isTerminal solver.status }
  · exact ⟨rfl, rfl, rfl⟩

theorem observeAll {stages stages' : List Stage} (same : t.Matches T r q u)
    (together : List.Forall₂ (Stage.Matches r q) stages stages') :
  (t.observeAll stages).Matches T r q (u.observeAll stages')
  := by
  induction together generalizing t u with
  | nil => exact same
  | cons first _ ih => apply ih (same.observe first.after first.outcome)

end Matches

end Tracer

end ForwardChaining
