import Mathlib.Logic.Relation
import Mathlib.Tactic.Common
import ForwardChaining.Proofs.Together
import ForwardChaining.Registry

/-!
# Requests to a registry

A registry serves requests (`Registry.serve`), each of which leaves it changed in some way and gives
out the handles that the answer holds.  Whatever the request, and whether it fails or not, the
registry comes to its new state by changes of three kinds: names are added to the vocabulary, a fact
is made of a name of the vocabulary that has none, or the settings of a fact are changed
(`Registry.changes_serve`).  What no change takes away, no requests take away: a registry keeps its
number, its names, the names of its facts and the handles of names (`Registry.Grows`), and what a
handle stands for does not depend on when it was given out (`Registry.Stands.mono`).
-/

namespace ForwardChaining

/-- A setting of a fact. -/
inductive FactSetting where
  | effect (effect : Option Effect)
  | repeatCount (count : Nat)
  deriving DecidableEq

namespace Registry

/-- What a caller can ask of a registry. -/
inductive Request where
  /-- Names are to be added to the vocabulary. -/
  | register (names : List String)
  /-- The handle of the fact with this name, which is made at the first request. -/
  | get (name : String)
  /-- The handles of the facts with these names. -/
  | getAll (names : List String)
  /-- The handle of the fact with this name, if there is one already. -/
  | lookup (name : String)
  /-- The fact with this name, to be given the settings in order. -/
  | configure (name : String) (settings : List FactSetting)
  /-- The effect of a fact is to be invoked. -/
  | perform (fact : FactId)
  deriving DecidableEq

/-- The registry with a fact given a setting; a repeat count that is refused changes nothing. -/
def set (r : Registry) (fact : FactId) : FactSetting → Registry
  | .effect effect => r.setEffect fact effect
  | .repeatCount count => (r.setRepeat fact count).toOption.getD r

/-- The registry after a request, and the handles that are given out; a request that fails gives out
none. -/
def serve (r : Registry) : Request → Registry × List FactId
  | .register names => ((r.register names).toOption.elim r (·.1), [])
  | .get name => (r.get name).toOption.elim (r, []) fun (r, fact) => (r, [fact])
  | .getAll names =>
    let (r, facts) := r.getAll names
    (r, facts.toOption.getD [])
  | .lookup name => (r, (r.lookup name).toList)
  | .configure name settings =>
    (r.get name).toOption.elim (r, []) fun (r, fact) =>
      (settings.foldl (fun r setting => r.set fact setting) r, [fact])
  | .perform _ => (r, [])

/-- The registry after the given requests, in order. -/
def after (r : Registry) (requests : List Request) : Registry :=
  requests.foldl (fun r request => (r.serve request).1) r

/-- The names that the request adds to the vocabulary, if they are new. -/
def Request.accepted : Request → List String
  | .register names => if names.any isBlankName then [] else names.map Text.trimmed
  | _ => []

/-- The names that the request asks the handles of. -/
def Request.names : Request → List String
  | .get name | .lookup name | .configure name _ => [name]
  | .getAll names => names
  | .register _ | .perform _ => []

variable {r s : Registry} {name : String} {fact : FactId} {request : Request}
  {requests more : List Request}

theorem after_concat (r : Registry) (requests : List Request) (request : Request) :
  r.after (requests ++ [request]) = ((r.after requests).serve request).1
  := List.foldl_append

theorem set_of_setRepeat {count : Nat} (accepted : r.setRepeat fact count = .ok s) :
  r.set fact (.repeatCount count) = s
  := by
  rw [set, accepted]
  rfl

/-! ### Changes -/

/-- The registry with a fact made of the name. -/
def intern (r : Registry) (name : String) : Registry :=
  { r with
    facts := r.facts.push (.fresh ⟨r.id, r.facts.size⟩ name)
    handles := (name, ⟨r.id, r.facts.size⟩) :: r.handles }

/-- What can happen to a registry at once. -/
inductive Changes : Registry → Registry → Prop where
  /-- Names that are not blank are added to the vocabulary, trimmed. -/
  | register (r : Registry) {names : List String}
      (visible : ∀ name ∈ names, isBlankName name = false) :
      Changes r { r with vocabulary := r.vocabulary.insertAll (names.map Text.trimmed) }
  /-- A fact is made of a name of the vocabulary that has none. -/
  | intern {r : Registry} {name : String} (known : name ∈ r.vocabulary.names)
      (new : r.handles.lookup name = none) : Changes r (r.intern name)
  /-- A fact is given other settings. -/
  | modify (r : Registry) (fact : FactId) {f : Fact → Fact}
      (keeps : ∀ found, r.fact? fact = some found →
        (f found).id = found.id ∧ (f found).name = found.name) :
      Changes r (r.modify fact f)

/-- A request for a handle finds it, or makes a fact of the name. -/
theorem get_cases (got : r.get name = .ok (s, fact)) :
  (r.lookup name = some fact ∧ s = r)
    ∨ (r.lookup name = none ∧ Text.trimmed name ∈ r.vocabulary.names
      ∧ fact = ⟨r.id, r.facts.size⟩ ∧ s = r.intern (Text.trimmed name))
  := by
  unfold get at got
  cases found : r.lookup name with
  | some known =>
    rw [found] at got
    cases got
    left
    exact ⟨rfl, rfl⟩
  | none =>
    rw [found] at got
    dsimp only at got
    split at got
    · rename_i known
      cases got
      right
      exact ⟨rfl, (r.vocabulary.contains_iff _).mp known, rfl, rfl⟩
    · cases got

theorem changes_get (got : r.get name = .ok (s, fact)) :
  Relation.ReflTransGen Changes r s
  := by
  obtain ⟨-, rfl⟩ | ⟨new, known, -, rfl⟩ := get_cases got
  · exact .refl
  · exact .single (.intern known new)

theorem changes_getAll (r : Registry) (names : List String) :
  Relation.ReflTransGen Changes r (r.getAll names).1
  := by
  induction names generalizing r with
  | nil => exact .refl
  | cons name names ih =>
    unfold getAll
    cases got : r.get name with
    | error e => exact .refl
    | ok found => exact (changes_get got).trans (ih found.1)

theorem changes_set (r : Registry) (fact : FactId) (setting : FactSetting) :
  Relation.ReflTransGen Changes r (r.set fact setting)
  := by
  cases setting with
  | effect effect =>
    apply Relation.ReflTransGen.single
    apply Changes.modify r fact
    intro found _
    exact ⟨rfl, rfl⟩
  | repeatCount count =>
    unfold set setRepeat
    cases found : r.fact? fact with
    | none => exact .refl
    | some f =>
      by_cases zero : count = 0
      · rw [zero]
        exact .refl
      · have accepted : f.withRepeat count = .ok { f with repeatCount := count } := if_neg zero
        dsimp only
        rw [accepted]
        apply Relation.ReflTransGen.single
        apply Changes.modify r fact
        intro found' same
        rw [found] at same
        cases same
        exact ⟨rfl, rfl⟩

theorem changes_foldl_set (r : Registry) (fact : FactId) (settings : List FactSetting) :
  Relation.ReflTransGen Changes r (settings.foldl (fun r setting => r.set fact setting) r)
  := by
  induction settings generalizing r with
  | nil => exact .refl
  | cons setting settings ih => exact (r.changes_set fact setting).trans (ih _)

/-- Whatever is asked of a registry, it comes to its new state by changes of three kinds. -/
theorem changes_serve (r : Registry) (request : Request) :
  Relation.ReflTransGen Changes r (r.serve request).1
  := by
  cases request with
  | register names =>
    rw [serve, register]
    cases blank : names.find? isBlankName with
    | some name => exact .refl
    | none =>
      apply Relation.ReflTransGen.single
      apply Changes.register
      intro name member
      exact Bool.eq_false_iff.mpr (List.find?_eq_none.mp blank name member)
  | get name =>
    rw [serve]
    cases got : r.get name with
    | error e => exact .refl
    | ok found => exact changes_get got
  | getAll names => exact r.changes_getAll names
  | lookup name => exact .refl
  | configure name settings =>
    rw [serve]
    cases got : r.get name with
    | error e => exact .refl
    | ok found => exact (changes_get got).trans (changes_foldl_set _ _ _)
  | perform fact => exact .refl

theorem changes_after (r : Registry) (requests : List Request) :
  Relation.ReflTransGen Changes r (r.after requests)
  := by
  induction requests generalizing r with
  | nil => exact .refl
  | cons request requests ih => exact (r.changes_serve request).trans (ih _)

/-! ### What no change takes away -/

/-- The registry `s` has all that the registry `r` has. -/
structure Grows (r s : Registry) : Prop where
  id : s.id = r.id
  known : ∀ name ∈ r.vocabulary.names, name ∈ s.vocabulary.names
  named : ∀ fact name, r.name? fact = some name → s.name? fact = some name
  found : ∀ name fact, r.handles.lookup name = some fact → s.handles.lookup name = some fact

theorem Grows.refl (r : Registry) :
  r.Grows r
  := ⟨rfl, fun _ known => known, fun _ _ named => named, fun _ _ found => found⟩

theorem Grows.trans {t : Registry} (first : r.Grows s) (second : s.Grows t) :
  r.Grows t
  := by
  constructor
  · exact second.id.trans first.id
  · intro name known
    exact second.known name (first.known name known)
  · intro fact name named
    exact second.named fact name (first.named fact name named)
  · intro name fact found
    exact second.found name fact (first.found name fact found)

/-- The next place of the table is not taken. -/
theorem name?_next (r : Registry) :
  r.name? ⟨r.id, r.facts.size⟩ = none
  := by
  simp [name?, fact?]

theorem name?_intern (r : Registry) (name : String) (fact : FactId) :
  (r.intern name).name? fact
    = if fact = ⟨r.id, r.facts.size⟩ then some name else r.name? fact
  := by
  obtain ⟨registry, index⟩ := fact
  by_cases own : registry = r.id
  · by_cases next : index = r.facts.size
    · simp [name?, fact?, intern, own, next, Fact.fresh]
    · simp [name?, fact?, intern, own, next, Array.getElem?_push]
  · simp [name?, fact?, intern, own]

theorem fact?_modify (r : Registry) (fact : FactId) (f : Fact → Fact) (other : FactId) :
  (r.modify fact f).fact? other
    = if fact = other then (r.fact? other).map f else r.fact? other
  := by
  obtain ⟨registry, index⟩ := fact
  obtain ⟨registry', index'⟩ := other
  unfold modify fact?
  by_cases own : registry = r.id
  · by_cases inside : registry' = r.id
    · simp [own, inside, Array.getElem?_modify]
    · have apart : ¬r.id = registry' := fun same => inside same.symm
      simp [own, inside, apart]
  · by_cases inside : registry' = r.id
    · simp [own, inside]
    · simp [own, inside]

/-- Other settings of a fact do not show in the names. -/
theorem name?_modify {f : Fact → Fact}
    (keeps : ∀ found, r.fact? fact = some found →
      (f found).id = found.id ∧ (f found).name = found.name) (other : FactId) :
  (r.modify fact f).name? other = r.name? other
  := by
  unfold name?
  rw [fact?_modify]
  split
  · rename_i same
    cases found : r.fact? other with
    | none => rfl
    | some g => exact congrArg some (keeps g (same ▸ found)).2
  · rfl

theorem lookup_intern (r : Registry) (name other : String) :
  (r.intern name).handles.lookup other
    = if other = name then some ⟨r.id, r.facts.size⟩ else r.handles.lookup other
  := by
  rw [intern, List.lookup_cons]
  by_cases same : other = name
  · rw [if_pos same, same, beq_self_eq_true]
  · rw [if_neg same, beq_false_of_ne same]

theorem vocabulary_modify (r : Registry) (fact : FactId) (f : Fact → Fact) :
  (r.modify fact f).vocabulary = r.vocabulary
  := by
  unfold modify
  split <;> rfl

theorem handles_modify (r : Registry) (fact : FactId) (f : Fact → Fact) :
  (r.modify fact f).handles = r.handles
  := by
  unfold modify
  split <;> rfl

theorem id_modify (r : Registry) (fact : FactId) (f : Fact → Fact) :
  (r.modify fact f).id = r.id
  := by
  unfold modify
  split <;> rfl

theorem Changes.grows (changes : r.Changes s) :
  r.Grows s
  := by
  cases changes with
  | register visible =>
    constructor
    · rfl
    · intro name known
      exact Vocabulary.mem_names_insertAll.mpr (Or.inl known)
    · intro fact name named
      exact named
    · intro name fact found
      exact found
  | @intern name known new =>
    constructor
    · rfl
    · intro name known
      exact known
    · intro fact name' named
      rw [name?_intern, if_neg]
      · exact named
      · rintro rfl
        rw [name?_next] at named
        cases named
    · intro name' fact found
      rw [lookup_intern, if_neg]
      · exact found
      · rintro rfl
        rw [new] at found
        cases found
  | modify fact keeps =>
    constructor
    · exact r.id_modify fact _
    · intro name known
      rw [vocabulary_modify]
      exact known
    · intro other name named
      rw [name?_modify keeps]
      exact named
    · intro name other found
      rw [handles_modify]
      exact found

theorem grows_of_changes (changes : Relation.ReflTransGen Changes r s) :
  r.Grows s
  := by
  induction changes with
  | refl => exact .refl r
  | tail _ last ih => exact ih.trans last.grows

theorem grows_after (r : Registry) (requests : List Request) :
  r.Grows (r.after requests)
  := grows_of_changes (r.changes_after requests)

theorem grows_serve (r : Registry) (request : Request) :
  r.Grows (r.serve request).1
  := grows_of_changes (r.changes_serve request)

/-! ### What handles stand for -/

/-- The handle stands for the name, which may have blanks around it. -/
def Stands (r : Registry) (name : String) (fact : FactId) : Prop :=
  r.name? fact = some (Text.trimmed name)

/-- The handles stand for the names, one for each, in order. -/
def Resolves (r : Registry) (names : List String) (facts : List FactId) : Prop :=
  List.Forall₂ r.Stands names facts

theorem Stands.mono (stands : r.Stands name fact) (grows : r.Grows s) :
  s.Stands name fact
  := grows.named _ _ stands

theorem Resolves.mono {names : List String} {facts : List FactId} (resolves : r.Resolves names facts)
    (grows : r.Grows s) :
  s.Resolves names facts
  := resolves.imp fun _ _ stands => stands.mono grows

end Registry

end ForwardChaining
