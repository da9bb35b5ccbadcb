import ForwardChaining.Proofs.Registry.Settings

/-!
# What failures leave

The operations of a registry that can fail, step by step: what a step has changed stays changed when
a later one fails.  Each comes to what the registry does at once, and it is told for each when it
fails and what it leaves then (`Registry.failsafe_after`).  Only a request for several handles leaves
something: the facts that were made before the first unknown name.
-/

namespace ForwardChaining

namespace Registry

variable {α : Type} {r s : Registry} {name : String} {names : List String}

/-- What is left of a registry by what changes it in turn. -/
def inTurn : Registry × Except Error α → EStateM.Result Error Registry α
  | (s, .ok a) => .ok a s
  | (s, .error e) => .error e s

/-- The names, trimmed, that no fact has been made of, each once. -/
def unmade (r : Registry) (names : List String) : List String :=
  ((names.map Text.trimmed).filter fun name => (r.handles.lookup name).isNone).eraseDups

/-- Facts with the given names, at the next places of the table. -/
def fresh (r : Registry) (names : List String) : List Fact :=
  (names.zipIdx r.facts.size).map fun entry => .fresh ⟨r.id, entry.2⟩ entry.1

/-- The registry with facts made of the names, and nothing else changed. -/
def internAll (r : Registry) (names : List String) : Registry :=
  { r with
    facts := (r.facts.toList ++ r.fresh names).toArray
    handles := ((r.fresh names).map fun fact => (fact.name, fact.id)).reverse ++ r.handles }

theorem internAll_nil (r : Registry) :
  r.internAll [] = r
  := by
  simp [internAll, fresh]

theorem internAll_cons (r : Registry) (name : String) (names : List String) :
  r.internAll (name :: names) = (r.intern name).internAll names
  := by
  simp [internAll, fresh, intern, Fact.fresh]

/-- What no fact has been made of is made in turn. -/
theorem internAll_unmade_cons {fact : FactId} (got : r.get name = .ok (s, fact))
    (names : List String) :
  r.internAll (r.unmade (name :: names)) = s.internAll (s.unmade names)
  := by
  unfold unmade
  rw [List.map_cons, List.filter_cons]
  obtain ⟨found, rfl⟩ | ⟨new, -, -, rfl⟩ := get_cases got
  · rw [show s.handles.lookup (Text.trimmed name) = some fact from found]
    rfl
  · have others : (fun other => ((r.intern (Text.trimmed name)).handles.lookup other).isNone)
        = fun other => !other == Text.trimmed name && (r.handles.lookup other).isNone := by
      funext other
      rw [lookup_intern]
      by_cases same : other = Text.trimmed name
      · rw [if_pos same, same, beq_self_eq_true]
        rfl
      · rw [if_neg same, beq_false_of_ne same]
        rfl
    rw [show r.handles.lookup (Text.trimmed name) = none from new, Option.isNone_none, if_pos rfl,
      List.eraseDups_cons, List.filter_filter, others, internAll_cons]

/-- Names of the vocabulary are all asked for, and what comes after them is asked of the registry
that they lead to. -/
theorem getAll_append_of_known {before : List String}
    (known : ∀ name ∈ before, Text.trimmed name ∈ r.vocabulary.names) (rest : List String) :
  ∃ facts, r.getAll (before ++ rest)
    = (((r.internAll (r.unmade before)).getAll rest).1,
      ((r.internAll (r.unmade before)).getAll rest).2.map (facts ++ ·))
  := by
  induction before generalizing r with
  | nil =>
    use []
    rw [List.nil_append, show r.unmade [] = [] from rfl, internAll_nil]
    obtain ⟨s, outcome⟩ := r.getAll rest
    cases outcome with
    | error e => rfl
    | ok facts => rfl
  | cons name before ih =>
    rw [List.forall_mem_cons] at known
    obtain ⟨⟨s, fact⟩, got⟩ := exists_get known.1
    rw [← vocabulary_get got] at known
    obtain ⟨facts, later⟩ := ih known.2
    use fact :: facts
    rw [List.cons_append, getAll_cons_of_ok got, later, internAll_unmade_cons got]
    obtain ⟨t, outcome⟩ := (s.internAll (s.unmade before)).getAll rest
    cases outcome with
    | error e => rfl
    | ok more => rfl

theorem getAll_of_known (known : ∀ name ∈ names, Text.trimmed name ∈ r.vocabulary.names) :
  ∃ facts, r.getAll names = (r.internAll (r.unmade names), .ok facts)
  := by
  obtain ⟨facts, whole⟩ := getAll_append_of_known known []
  rw [List.append_nil] at whole
  exact ⟨_, whole⟩

theorem Agrees.internAll (agrees : r.Agrees)
    (known : ∀ name ∈ names, Text.trimmed name ∈ r.vocabulary.names) :
  (r.internAll (r.unmade names)).Agrees
  := by
  obtain ⟨facts, whole⟩ := getAll_of_known known
  have asked := agrees.changes (r.changes_getAll names)
  rw [whole] at asked
  exact asked

end Registry

end ForwardChaining
