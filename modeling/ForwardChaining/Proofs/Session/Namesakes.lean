import ForwardChaining.Proofs.Explain.Namesakes
import ForwardChaining.Proofs.Session.Driving
import ForwardChaining.Proofs.Solver.Blueprint
import ForwardChaining.Proofs.Trace.Namesakes

/-!
# Handles do not show

A handle says no more than when its name was first asked for, and nothing that a solver or a session
gives out depends on that.  Sessions match if their solvers and tracers do (`Session.Matches`).
The same lines lead sessions that match to sessions that match, with the same answers but for time
stamps (`Session.Matches.evalAll`).  So two solvers of one blueprint cannot be told apart, whatever
else their registries were asked for (`Blueprint.handles_do_not_show`).
-/

namespace ForwardChaining

variable {T : Nat → Nat → Prop} {r q : Registry}

/-- The replies are the same, but for the time stamps of a text. -/
inductive Reply.Matches (T : Nat → Nat → Prop) :
    Except Error Reply → Except Error Reply → Prop where
  | text {a b : String} (retimed : Retimed T a b) : Matches T (.ok (.text a)) (.ok (.text b))
  | save (path : String) (record : RunRecord) :
    Matches T (.ok (.save path record)) (.ok (.save path record))
  | error (e : Error) : Matches T (.error e) (.error e)

theorem Reply.matches_of_eq {a b : Except Error String} (same : a = b) :
  Reply.Matches T (a.map .text) (b.map .text)
  := by
  subst same
  cases a with
  | error e => exact .error e
  | ok text => exact .text (.same text)

/-- The answers are the same error, or texts that are the same but for time stamps that are
related. -/
inductive RetimedAnswer (T : Nat → Nat → Prop) :
    Except Error String → Except Error String → Prop where
  | text {a b : String} (retimed : Retimed T a b) : RetimedAnswer T (.ok a) (.ok b)
  | error (e : Error) : RetimedAnswer T (.error e) (.error e)

theorem RetimedAnswer.eq {a b : Except Error String} (retimed : RetimedAnswer Eq a b) :
  a = b
  := by
  cases retimed with
  | text retimed => rw [retimed.eq]
  | error e => rfl

namespace Session

/-- The sessions show the same styles, and their solvers and tracers match. -/
structure Matches (T : Nat → Nat → Prop) (r q : Registry) (s t : Session) : Prop where
  solver : s.solver.Matches r q t.solver
  tracer : s.tracer.Matches T r q t.tracer
  styles : s.styles = t.styles

variable {s t : Session} {x y : Solver}

/-! ### Texts -/

theorem describeRule_eq {a b : Rule} (same : x.Matches r q y) (rule : a.Matches (r.Same q) b)
    (id : RuleId) :
  describeRule x id a = describeRule y id b
  := by
  rw [describeRule, describeRule, same.left, same.right, rule.describe_eq]

theorem describeOutcome_eq {o o' : Outcome} (styles : Styles) (same : x.Matches r q y)
    (outcome : o.Matches (r.Same q) o') :
  describeOutcome styles x o = describeOutcome styles y o'
  := by
  cases outcome with
  | @examined rule performing facts facts' asserted =>
    have sentence : (x.rule? rule).elim "" (fun rule => rule.describe x.registry)
        = (y.rule? rule).elim "" fun rule => rule.describe y.registry := by
      rw [same.left, same.right]
      apply same.rule?_congr (f := (Option.elim · "" (·.describe r)))
        (g := (Option.elim · "" (·.describe q))) rule rfl
      intro a b rule
      exact rule.describe_eq {}
    have names : (facts.map fun fact =>
          "\n  + " ++ styles.paint styles.fact (x.registry.displayName fact))
        = facts'.map fun fact =>
          "\n  + " ++ styles.paint styles.fact (y.registry.displayName fact) := by
      rw [same.left, same.right]
      apply map_eq_of_together asserted
      intro f g related
      rw [related.displayName_eq]
    rw [describeOutcome, describeOutcome]
    dsimp only
    rw [sentence, names]
  | succeeded => rfl
  | failed deadlock => rfl

namespace Matches

theorem memoryText_eq (same : s.Matches T r q t) :
  s.memoryText = t.memoryText
  := by
  rw [memoryText, memoryText]
  refine congrArg (fun lines => bind lines _) ?_
  apply mapM_eq_of_together (zipIdx_of_together same.solver.memory.sequence 0)
  rintro ⟨f, i⟩ ⟨g, j⟩ ⟨related, place⟩
  dsimp only at related place ⊢
  rw [same.solver.why_eq related, same.styles, same.solver.left, same.solver.right,
    related.displayName_eq, place]

theorem rulesText_eq (same : s.Matches T r q t) :
  s.rulesText = t.rulesText
  := by
  have fired (id : RuleId) : s.solver.hasFired id = t.solver.hasFired id := by
    rw [Solver.hasFired, Solver.hasFired, same.solver.fired]
  have current : s.solver.current? = t.solver.current? := by
    rw [Solver.current?, Solver.current?, Solver.isTerminal, Solver.isTerminal,
      same.solver.status, same.solver.pending, same.solver.cursor_eq]
  rw [rulesText, rulesText, List.mapIdx_eq_zipIdx_map, List.mapIdx_eq_zipIdx_map]
  refine congrArg (fun lines : List String =>
    if lines.isEmpty then _ else Text.trimmedRight ("\n".intercalate lines)) ?_
  apply map_eq_of_together (zipIdx_of_together same.solver.rules 0)
  rintro ⟨a, i⟩ ⟨b, j⟩ ⟨rule, place⟩
  dsimp only at rule place ⊢
  rw [place, describeRule_eq same.solver rule, fired, current, same.styles]

theorem pendingText_eq (same : s.Matches T r q t) :
  s.pendingText = t.pendingText
  := by
  have lines : (fun id => (s.solver.rule? id).map fun rule => "  " ++ describeRule s.solver id rule)
      = fun id => (t.solver.rule? id).map fun rule => "  " ++ describeRule t.solver id rule := by
    funext id
    apply same.solver.rule?_congr
      (f := Option.map fun rule => "  " ++ describeRule s.solver id rule)
      (g := Option.map fun rule => "  " ++ describeRule t.solver id rule) id rfl
    intro a b rule
    rw [Option.map_some, Option.map_some, describeRule_eq same.solver rule]
  rw [pendingText, pendingText, same.solver.pending, lines]

theorem historyText_eq (same : s.Matches T r q t) :
  s.historyText = t.historyText
  := by
  have lines : (s.solver.history.snapshots.map fun snapshot =>
        (SnapshotRecord.capture s.solver.registry snapshot).line)
      = t.solver.history.snapshots.map fun snapshot =>
        (SnapshotRecord.capture t.solver.registry snapshot).line := by
    have captured := congrArg (List.map SnapshotRecord.line) same.solver.captures_eq
    rwa [List.map_map, List.map_map] at captured
  rw [historyText, historyText, lines]

/-- The origin of a name is told alike, also if only one of the registries has a fact for it. -/
theorem whyText_eq (same : s.Matches T r q t) (name : String) :
  s.whyText name = t.whyText name
  := by
  have alike := same.solver.alike
  have known : r.containsName name = q.containsName name := by
    rw [Registry.containsName, Registry.containsName, alike.vocabulary]
  rw [whyText, whyText, same.solver.left, same.solver.right]
  cases left : r.lookup name with
  | some f =>
    cases right : q.lookup name with
    | some g =>
      dsimp only
      rw [same.solver.why_eq (alike.same_of_lookup left right)]
    | none =>
      have named := (alike.left.inverse _ f).mp left
      have contained : q.containsName name = true :=
        known ▸ alike.left.containsName_of_lookup left
      have origin : s.solver.why f = .ok .unreachable := by
        rw [Solver.why, same.solver.left, Registry.check_of_name? named,
          same.solver.origin_of_alone_left (alike.not_same_of_lookup left right)]
        rfl
      dsimp only
      rw [origin, if_pos contained]
  | none =>
    cases right : q.lookup name with
    | some g =>
      have named := (alike.right.inverse _ g).mp right
      have contained : r.containsName name = true :=
        known ▸ alike.right.containsName_of_lookup right
      have origin : t.solver.why g = .ok .unreachable := by
        rw [Solver.why, same.solver.right, Registry.check_of_name? named,
          same.solver.origin_of_alone_right fun f related =>
            alike.symm.not_same_of_lookup right left f related.symm]
        rfl
      dsimp only
      rw [origin, if_pos contained]
    | none =>
      dsimp only
      rw [known]

theorem traceText_eq (same : s.Matches T r q t) :
  s.traceText = t.traceText
  := by
  have recorded : s.tracer.buffer.stats.recordCount = t.tracer.buffer.stats.recordCount :=
    same.tracer.buffer.size_eq
  have passes : s.tracer.buffer.stats.passCount = t.tracer.buffer.stats.passCount :=
    congrArg (fun index => index.passes.length) same.tracer.buffer.perPass
  rw [traceText, traceText, recorded, passes, same.tracer.config]

theorem recordsText (same : s.Matches T r q t) (count : Nat) :
  Retimed T (s.recordsText count) (t.recordsText count)
  := by
  have records := same.tracer.buffer.recent count
  rw [Session.recordsText, Session.recordsText, isEmpty_eq_of_together records, same.solver.left,
    same.solver.right]
  split
  · exact .same _
  · exact same.tracer.formatAll records

/-! ### Commands -/

theorem follow {stages stages' : List Stage} (same : s.Matches T r q t)
    (together : List.Forall₂ (Stage.Matches r q) stages stages') :
  (s.follow stages).1.Matches T r q (t.follow stages').1
    ∧ Reply.Matches T (s.follow stages).2 (t.follow stages').2
  := by
  constructor
  · exact ⟨same.solver.afterStages together, same.tracer.observeAll together, same.styles⟩
  · apply Reply.Matches.text
    apply Retimed.of_eq
    rw [same.styles, map_eq_of_together together fun _ _ stage =>
      describeOutcome_eq t.styles stage.after stage.outcome]

theorem rewind (same : s.Matches T r q t) (step : Nat) :
  (s.rewind step).1.Matches T r q (t.rewind step).1
    ∧ Reply.Matches T (s.rewind step).2 (t.rewind step).2
  := by
  rw [Session.rewind, Session.rewind]
  obtain ⟨e, failed, failed'⟩ | ⟨x, y, rewound, rewound', after⟩ := same.solver.rewind_cases step
  · rw [failed, failed']
    exact ⟨same, .error e⟩
  · rw [rewound, rewound']
    refine ⟨⟨after, same.tracer.rewound after step, same.styles⟩, ?_⟩
    apply Reply.Matches.text
    apply Retimed.of_eq
    rw [after.iteration]

theorem performTrace (same : s.Matches T r q t) (command : TraceCommand) :
  (s.performTrace command).1.Matches T r q (t.performTrace command).1
    ∧ Reply.Matches T (s.performTrace command).2 (t.performTrace command).2
  := by
  cases command with
  | status => exact ⟨same, .text (.of_eq same.traceText_eq)⟩
  | setEnabled enabled =>
    exact ⟨{ same with tracer := same.tracer.setEnabled enabled }, .text (.same _)⟩
  | setJson json => exact ⟨{ same with tracer := same.tracer.setJson json }, .text (.same _)⟩
  | clear => exact ⟨{ same with tracer := same.tracer.clear }, .text (.same _)⟩
  | showLatest count => exact ⟨same, .text (same.recordsText count)⟩

/-- A command leads to sessions that match, with replies that are the same but for time stamps. -/
theorem perform (same : s.Matches T r q t) (command : Command) :
  (s.perform command).1.Matches T r q (t.perform command).1
    ∧ Reply.Matches T (s.perform command).2 (t.perform command).2
  := by
  cases command with
  | step =>
    obtain ⟨outcome, after⟩ := same.solver.step
    exact same.follow (.cons ⟨outcome, after⟩ .nil)
  | iterate => exact same.follow same.solver.passStages
  | run => exact same.follow same.solver.stages
  | memory => exact ⟨same, Reply.matches_of_eq same.memoryText_eq⟩
  | rules => exact ⟨same, .text (.of_eq same.rulesText_eq)⟩
  | pending => exact ⟨same, .text (.of_eq same.pendingText_eq)⟩
  | history => exact ⟨same, .text (.of_eq same.historyText_eq)⟩
  | rewind step => exact same.rewind step
  | whyBlocked => exact ⟨same, .text (.of_eq (same.solver.explain_eq same.solver.blocked))⟩
  | whyFact name => exact ⟨same, Reply.matches_of_eq (same.whyText_eq name)⟩
  | trace command => exact same.performTrace command
  | save path =>
    have saved : Reply.Matches T (.ok (.save path (.capture s.solver)))
        (.ok (.save path (.capture t.solver))) := by
      rw [same.solver.capture_eq]
      exact .save path _
    exact ⟨same, saved⟩
  | help => exact ⟨same, .text (.same _)⟩

/-- A command line leads to sessions that match, with replies that are the same but for time
stamps. -/
theorem answer (same : s.Matches T r q t) (line : String) :
  (s.answer line).1.Matches T r q (t.answer line).1
    ∧ Reply.Matches T (s.answer line).2 (t.answer line).2
  := by
  rw [Session.answer, Session.answer]
  cases Command.parse line with
  | error problem => exact ⟨same, .error _⟩
  | ok command => exact same.perform command

theorem eval (same : s.Matches T r q t) (disk : Disk) (line : String) :
  (s.eval disk line).1.Matches T r q (t.eval disk line).1
    ∧ (s.eval disk line).2.1 = (t.eval disk line).2.1
    ∧ RetimedAnswer T (s.eval disk line).2.2 (t.eval disk line).2.2
  := by
  obtain ⟨after, reply⟩ := same.answer line
  rw [Session.eval, Session.eval]
  generalize s.answer line = answered at after reply
  generalize t.answer line = answered' at after reply
  obtain ⟨u, first⟩ := answered
  obtain ⟨v, second⟩ := answered'
  dsimp only at after reply
  cases reply with
  | text retimed => exact ⟨after, rfl, .text retimed⟩
  | error e => exact ⟨after, rfl, .error e⟩
  | save path record =>
    refine ⟨after, rfl, ?_⟩
    change RetimedAnswer T ((record.saveTo path disk).1.map _) ((record.saveTo path disk).1.map _)
    cases (RunRecord.saveTo path record disk).1 with
    | ok => exact .text (.same _)
    | error e => exact .error e

/-- Lines with the same texts lead to sessions that match, to the same disk, and to answers that are
the same but for time stamps. -/
theorem evalAll {lines lines' : List TimedLine} (same : s.Matches T r q t) (disk : Disk)
    (together : List.Forall₂ (fun a b => T a.time b.time ∧ a.text = b.text) lines lines') :
  (s.evalAll disk lines).1.Matches T r q (t.evalAll disk lines').1
    ∧ (s.evalAll disk lines).2.1 = (t.evalAll disk lines').2.1
    ∧ List.Forall₂ (RetimedAnswer T) (s.evalAll disk lines).2.2 (t.evalAll disk lines').2.2
  := by
  induction together generalizing s t disk with
  | nil => exact ⟨same, rfl, .nil⟩
  | @cons a b _ _ first _ ih =>
    obtain ⟨time, text⟩ := first
    have timed : (s.atTime a.time).Matches T r q (t.atTime b.time) :=
      { same with tracer := same.tracer.atTime time }
    obtain ⟨after, disks, answer⟩ := timed.eval disk a.text
    rw [Session.evalAll, Session.evalAll, ← text]
    dsimp only
    rw [← disks]
    obtain ⟨final, disks', answers⟩ := ih after ((s.atTime a.time).eval disk a.text).2.1
    exact ⟨final, disks', .cons answer answers⟩

end Matches

end Session

/-! ### Handles do not show -/

/-- Solvers over the registries `r` and `q` cannot be told apart: their records are the same, the
same effects were invoked, and whatever is asked of them next has the same result, from outside or
in a session.  Results that hold handles are the same by name. -/
structure Solver.Indistinguishable (r q : Registry) (s t : Solver) : Prop where
  record : RunRecord.capture s = RunRecord.capture t
  invocations : s.log = t.log
  step : s.step.1.Matches (r.Same q) t.step.1
  iterate : List.Forall₂ (Outcome.Matches (r.Same q)) s.iterate.1 t.iterate.1
  run : s.run.1 = t.run.1
  /-- What an observer of a run is told. -/
  observed : List.Forall₂ (Outcome.Matches (r.Same q)) (s.stages.map (·.outcome))
    (t.stages.map (·.outcome))
  rewind : ∀ n, (s.rewind n).map RunRecord.capture = (t.rewind n).map RunRecord.capture
  blocked : List.Forall₂ (BlockedRule.Matches (r.Same q)) s.blocked t.blocked
  explained : s.explain s.blocked = t.explain t.blocked
  /-- The same lines at the same times have the same answers, and leave the same disk and the same
  lines of the tracer. -/
  answers : ∀ tracing styles disk lines,
    (Session.evalAll ⟨s, .create tracing, styles⟩ disk lines).2
        = (Session.evalAll ⟨t, .create tracing, styles⟩ disk lines).2
      ∧ (Session.evalAll ⟨s, .create tracing, styles⟩ disk lines).1.tracer.written.toList
        = (Session.evalAll ⟨t, .create tracing, styles⟩ disk lines).1.tracer.written.toList
  /-- The same lines at other times have answers that differ in time stamps only. -/
  retimed : ∀ tracing styles disk (lines lines' : List Session.TimedLine),
    lines.map (·.text) = lines'.map (·.text) →
      (Session.evalAll ⟨s, .create tracing, styles⟩ disk lines).2.1
          = (Session.evalAll ⟨t, .create tracing, styles⟩ disk lines').2.1
        ∧ List.Forall₂ (RetimedAnswer fun _ _ => True)
          (Session.evalAll ⟨s, .create tracing, styles⟩ disk lines).2.2
          (Session.evalAll ⟨t, .create tracing, styles⟩ disk lines').2.2

namespace Solver.Matches

variable {s t : Solver}

theorem answers_eq (same : s.Matches r q t) (tracing : TracerConfig) (styles : Styles)
    (disk : Disk) (lines : List Session.TimedLine) :
  (Session.evalAll ⟨s, .create tracing, styles⟩ disk lines).2
      = (Session.evalAll ⟨t, .create tracing, styles⟩ disk lines).2
    ∧ (Session.evalAll ⟨s, .create tracing, styles⟩ disk lines).1.tracer.written.toList
      = (Session.evalAll ⟨t, .create tracing, styles⟩ disk lines).1.tracer.written.toList
  := by
  have opened : Session.Matches Eq r q ⟨s, .create tracing, styles⟩
      ⟨t, .create tracing, styles⟩ := ⟨same, Tracer.matches_create tracing rfl, rfl⟩
  have together : List.Forall₂
      (fun a b : Session.TimedLine => a.time = b.time ∧ a.text = b.text) lines lines :=
    List.forall₂_same.mpr fun _ _ => ⟨rfl, rfl⟩
  obtain ⟨after, disks, answers⟩ := opened.evalAll disk together
  have answers_eq := answers.imp fun _ _ => RetimedAnswer.eq
  have written_eq := after.tracer.written.imp fun _ _ retimed =>
    Prod.ext retimed.1 retimed.2.eq
  rw [List.forall₂_eq_eq_eq] at answers_eq written_eq
  exact ⟨Prod.ext disks answers_eq, written_eq⟩

theorem retimed {lines lines' : List Session.TimedLine} (same : s.Matches r q t)
    (tracing : TracerConfig) (styles : Styles) (disk : Disk)
    (texts : lines.map (·.text) = lines'.map (·.text)) :
  (Session.evalAll ⟨s, .create tracing, styles⟩ disk lines).2.1
      = (Session.evalAll ⟨t, .create tracing, styles⟩ disk lines').2.1
    ∧ List.Forall₂ (RetimedAnswer fun _ _ => True)
      (Session.evalAll ⟨s, .create tracing, styles⟩ disk lines).2.2
      (Session.evalAll ⟨t, .create tracing, styles⟩ disk lines').2.2
  := by
  have opened : Session.Matches (fun _ _ => True) r q ⟨s, .create tracing, styles⟩
      ⟨t, .create tracing, styles⟩ := ⟨same, Tracer.matches_create tracing trivial, rfl⟩
  have together : List.Forall₂
      (fun a b : Session.TimedLine => True ∧ a.text = b.text) lines lines' := by
    rw [← List.forall₂_eq_eq_eq, List.forall₂_map_left_iff, List.forall₂_map_right_iff] at texts
    exact texts.imp fun _ _ same => ⟨trivial, same⟩
  exact (opened.evalAll disk together).2

/-- Solvers that match cannot be told apart. -/
theorem indistinguishable (same : s.Matches r q t) :
  s.Indistinguishable r q t
  where
  record := same.capture_eq
  invocations := same.log
  step := same.step.1
  iterate := same.iterate.1
  run := same.run.1
  observed := by
    apply List.rel_map _ same.stages
    intro a b stage
    exact stage.outcome
  rewind n := by
    obtain ⟨e, failed, failed'⟩ | ⟨u, v, rewound, rewound', after⟩ := same.rewind_cases n
    · rw [failed, failed']
    · rw [rewound, rewound']
      exact congrArg Except.ok after.capture_eq
  blocked := same.blocked
  explained := same.explain_eq same.blocked
  answers := same.answers_eq
  retimed := by
    intro tracing styles disk lines lines' texts
    exact same.retimed tracing styles disk texts

end Solver.Matches

/-- Handles do not show.  However a blueprint is resolved there is a solver for it, and solvers for
two resolutions cannot be told apart after any moves. -/
theorem Blueprint.handles_do_not_show (p : Blueprint) (left right : p.Resolution)
    (config : SolverConfig) :
  ∃ s t : Solver, Solver.create left.registry left.inputs left.rules config = .ok s
    ∧ Solver.create right.registry right.inputs right.rules config = .ok t
    ∧ ∀ moves : List Move, Solver.Indistinguishable left.registry right.registry
      (s.afterMoves moves) (t.afterMoves moves)
  := by
  refine ⟨_, _, left.create_eq config, right.create_eq config, ?_⟩
  intro moves
  exact ((p.matches_initial left right config).afterMoves moves).indistinguishable

/-- From A to B, which says its name. -/
def Blueprint.telling : Blueprint where
  vocabulary := .ofNames ["A", "B", "C"]
  inputs := ["A"]
  rules := [⟨none, ["A"], ["B"], 1⟩]
  settings := [("B", [.effect (some .sayName)])]

/-- The names are asked for in order. -/
def Blueprint.inOrder : telling.Resolution where
  id := ⟨0⟩
  preparations := [.register ["A", "B", "C"]]
  requests := [.getAll ["A", "B"], .configure "B" [.effect (some .sayName)]]
  inputs := [⟨⟨0⟩, 0⟩]
  rules := [.implies [⟨⟨0⟩, 0⟩] [⟨⟨0⟩, 1⟩]]
  prepared := by decide
  unset := by decide
  asks := by decide
  configured := by decide
  inputs_handed := .cons (by decide) .nil
  rules_handed := .cons
    ⟨[⟨⟨0⟩, 0⟩], [⟨⟨0⟩, 1⟩], .cons (by decide) .nil, .cons (by decide) .nil, rfl⟩ .nil

/-- The names are asked for in reverse, and C is asked for first. -/
def Blueprint.inReverse : telling.Resolution where
  id := ⟨1⟩
  preparations := [.register ["A", "B"], .get "B", .register ["C"]]
  requests := [.get "C", .configure "B" [.effect (some .sayName)], .get "A", .get "B"]
  inputs := [⟨⟨1⟩, 2⟩]
  rules := [.implies [⟨⟨1⟩, 2⟩] [⟨⟨1⟩, 0⟩]]
  prepared := by decide
  unset := by decide
  asks := by decide
  configured := by decide
  inputs_handed := .cons (by decide) .nil
  rules_handed := .cons
    ⟨[⟨⟨1⟩, 2⟩], [⟨⟨1⟩, 0⟩], .cons (by decide) .nil, .cons (by decide) .nil, rfl⟩ .nil

theorem Blueprint.handles_do_not_show_in_reverse :
  inOrder.rules ≠ inReverse.rules
    ∧ inOrder.registry.lookup "C" = none ∧ inReverse.registry.lookup "C" = some ⟨⟨1⟩, 1⟩
    ∧ ∃ s t : Solver, Solver.create inOrder.registry inOrder.inputs inOrder.rules {} = .ok s
      ∧ Solver.create inReverse.registry inReverse.inputs inReverse.rules {} = .ok t
      ∧ ∀ moves : List Move, Solver.Indistinguishable inOrder.registry inReverse.registry
        (s.afterMoves moves) (t.afterMoves moves)
  := by
  refine ⟨by decide, by decide, by decide, ?_⟩
  exact telling.handles_do_not_show inOrder inReverse {}

end ForwardChaining
