import ForwardChaining.Proofs.Registry.Requests
import ForwardChaining.Proofs.Text.Trimming

/-!
# Interned facts

However a new registry is used, its parts stay in agreement (`Registry.interning_after`): the
vocabulary is what successful registrations have made of it, the table holds at most one fact for
each of its names, every fact carries the handle of its own place, and the list of handles leads
from each name to the fact that has it and to no other.  So facts are told apart by their trimmed
names, and what a handle stands for never changes.
-/

namespace ForwardChaining

/-! ### Names in order of registration -/

/-- A name that is added at the end is dropped if it has a place already. -/
theorem eraseDups_concat (names : List String) (name : String) :
  (names ++ [name]).eraseDups
    = if name ∈ names then names.eraseDups else names.eraseDups ++ [name]
  := by
  rw [List.eraseDups_append]
  split
  · rename_i known
    simp [List.removeAll, known]
  · rename_i new
    simp [List.removeAll, new, List.eraseDups_cons]

/-- The names of a vocabulary are the inserted ones, each at its first place. -/
theorem Vocabulary.names_insertAll {v : Vocabulary} {inserted : List String}
    (same : v.names = inserted.eraseDups) (names : List String) :
  (v.insertAll names).names = (inserted ++ names).eraseDups
  := by
  induction names generalizing v inserted with
  | nil => rw [List.append_nil, insertAll, List.foldl_nil, same]
  | cons name names ih =>
    have first : (v.insert name).names = (inserted ++ [name]).eraseDups := by
      rw [names_insert, same, eraseDups_concat]
      simp only [List.mem_eraseDups]
    rw [List.append_cons]
    exact ih first

namespace Registry

variable {r s t : Registry} {name other : String} {fact : FactId} {request : Request}
  {requests more : List Request}

/-! ### Agreement -/

/-- The name can stand in a vocabulary: it is trimmed and not blank. -/
def IsProper (name : String) : Prop :=
  Text.trimmed name = name ∧ isBlankName name = false

theorem isProper_trimmed (visible : isBlankName name = false) :
  IsProper (Text.trimmed name)
  := by
  constructor
  · simp only [Text.trimmed, String.toList_ofList, Text.trim_trim]
  · simpa only [isBlankName, Text.trimmed, String.toList_ofList, Text.trim_trim] using visible

/-- The parts of a registry agree. -/
structure Agrees (r : Registry) : Prop where
  proper : ∀ name ∈ r.vocabulary.names, IsProper name
  known : ∀ fact name, r.name? fact = some name → name ∈ r.vocabulary.names
  placed : ∀ i (fact : Fact), r.facts[i]? = some fact → fact.id = ⟨r.id, i⟩
  inverse : ∀ name fact, r.handles.lookup name = some fact ↔ r.name? fact = some name

theorem agrees_empty (id : RegistryId) :
  (empty id).Agrees
  := by
  constructor
  · intro name member
    cases member
  · intro fact name named
    simp [name?, fact?, empty] at named
  · intro i fact at_i
    simp [empty] at at_i
  · intro name fact
    simp [name?, fact?, empty]

theorem Agrees.register {names : List String} (agrees : r.Agrees)
    (visible : ∀ name ∈ names, isBlankName name = false) :
  { r with vocabulary := r.vocabulary.insertAll (names.map Text.trimmed) }.Agrees
  := by
  constructor
  · intro name member
    obtain old | new := Vocabulary.mem_names_insertAll.mp member
    · exact agrees.proper name old
    · obtain ⟨untrimmed, given, rfl⟩ := List.mem_map.mp new
      exact isProper_trimmed (visible untrimmed given)
  · intro fact name named
    exact Vocabulary.mem_names_insertAll.mpr (Or.inl (agrees.known fact name named))
  · exact agrees.placed
  · exact agrees.inverse

theorem Agrees.intern (agrees : r.Agrees) (known : name ∈ r.vocabulary.names)
    (new : r.handles.lookup name = none) :
  (r.intern name).Agrees
  := by
  constructor
  · exact agrees.proper
  · intro fact other named
    rw [name?_intern] at named
    split at named
    · cases named
      exact known
    · exact agrees.known fact other named
  · intro i fact at_i
    rw [Registry.intern, Array.getElem?_push] at at_i
    split at at_i
    · rename_i last
      cases at_i
      rw [last]
      rfl
    · exact agrees.placed i fact at_i
  · intro other fact
    rw [name?_intern, lookup_intern]
    by_cases same : other = name
    · rw [if_pos same, same]
      split
      · rename_i next
        rw [next]
        exact iff_of_true rfl rfl
      · rename_i elsewhere
        constructor
        · intro next
          exact absurd (Option.some.inj next).symm elsewhere
        · intro named
          rw [(agrees.inverse name fact).mpr named] at new
          cases new
    · rw [if_neg same, agrees.inverse]
      split
      · rename_i next
        rw [next, name?_next]
        constructor
        · intro none
          cases none
        · intro named
          exact absurd (Option.some.inj named).symm same
      · rfl

theorem Agrees.modify {f : Fact → Fact} (agrees : r.Agrees)
    (keeps : ∀ found, r.fact? fact = some found →
      (f found).id = found.id ∧ (f found).name = found.name) :
  (r.modify fact f).Agrees
  := by
  constructor
  · rw [vocabulary_modify]
    exact agrees.proper
  · intro other name named
    rw [name?_modify keeps] at named
    rw [vocabulary_modify]
    exact agrees.known other name named
  · intro i changed at_i
    have own : (r.modify fact f).fact? ⟨r.id, i⟩ = some changed := by
      rw [fact?, id_modify, if_pos rfl, at_i]
    rw [fact?_modify, fact?, if_pos rfl] at own
    rw [id_modify]
    split at own
    · rename_i same
      obtain ⟨found, there, rfl⟩ := Option.map_eq_some_iff.mp own
      have kept := (keeps found (by rw [same, fact?, if_pos rfl, there])).1
      rw [kept, agrees.placed i found there]
    · exact agrees.placed i changed own
  · intro name other
    rw [handles_modify, name?_modify keeps]
    exact agrees.inverse name other

/-- Every change keeps the parts in agreement. -/
theorem Agrees.change (agrees : r.Agrees) (changes : r.Changes s) :
  s.Agrees
  := by
  cases changes with
  | register visible => exact agrees.register visible
  | intern known new => exact agrees.intern known new
  | modify fact keeps => exact agrees.modify keeps

theorem Agrees.changes (agrees : r.Agrees) (changes : Relation.ReflTransGen Changes r s) :
  s.Agrees
  := by
  induction changes with
  | refl => exact agrees
  | tail _ last ih => exact ih.change last

theorem agrees_after (id : RegistryId) (requests : List Request) :
  ((empty id).after requests).Agrees
  := (agrees_empty id).changes ((empty id).changes_after requests)

/-! ### Handles -/

/-- The handle that is given out for a name is the one of the trimmed name. -/
theorem Agrees.name?_get (agrees : r.Agrees) (got : r.get name = .ok (s, fact)) :
  s.name? fact = some (Text.trimmed name)
  := by
  obtain ⟨found, rfl⟩ | ⟨-, -, rfl, rfl⟩ := get_cases got
  · exact (agrees.inverse _ _).mp found
  · rw [name?_intern, if_pos rfl]

theorem Agrees.eq_of_name? {fact' : FactId} (agrees : r.Agrees)
    (named : r.name? fact = some name) (named' : r.name? fact' = some name) :
  fact = fact'
  := by
  have found := (agrees.inverse name fact).mpr named
  have found' := (agrees.inverse name fact').mpr named'
  rw [found] at found'
  exact Option.some.inj found'

theorem getAll_cons_of_ok {first : String} (got : r.get first = .ok (s, fact))
    (names : List String) :
  r.getAll (first :: names) = ((s.getAll names).1, (s.getAll names).2.map (fact :: ·))
  := by
  simp only [getAll, got]

theorem Agrees.stands_get (agrees : r.Agrees) (got : r.get name = .ok (s, fact)) :
  s.Stands name fact
  := agrees.name?_get got

theorem Agrees.resolves_getAll {names : List String} {facts : List FactId} (agrees : r.Agrees)
    (got : (r.getAll names).2 = .ok facts) :
  (r.getAll names).1.Resolves names facts
  := by
  induction names generalizing r facts with
  | nil =>
    cases got
    apply List.Forall₂.nil
  | cons first names ih =>
    cases head : r.get first with
    | error e =>
      rw [getAll, head] at got
      cases got
    | ok found =>
      obtain ⟨s, fact⟩ := found
      rw [getAll_cons_of_ok head] at got ⊢
      cases rest : (s.getAll names).2 with
      | error e =>
        rw [rest] at got
        cases got
      | ok others =>
        rw [rest] at got
        obtain rfl : fact :: others = facts := Except.ok.inj got
        apply List.Forall₂.cons
        · apply (agrees.stands_get head).mono (grows_of_changes (s.changes_getAll names))
        · apply ih (agrees.changes (changes_get head)) rest

/-- A request is answered by handles for its names, one for each, or by none. -/
theorem Agrees.resolves_serve (agrees : r.Agrees) (request : Request) :
  (r.serve request).2 = [] ∨ (r.serve request).1.Resolves request.names (r.serve request).2
  := by
  cases request with
  | register names => exact .inl rfl
  | get name =>
    rw [serve]
    cases got : r.get name with
    | error e => exact .inl rfl
    | ok found => exact .inr (.cons (agrees.stands_get got) .nil)
  | getAll names =>
    cases got : (r.getAll names).2 with
    | error e =>
      have none : (r.serve (.getAll names)).2 = [] := congrArg (fun u => u.toOption.getD []) got
      exact .inl none
    | ok facts =>
      have given : (r.serve (.getAll names)).2 = facts :=
        congrArg (fun u => u.toOption.getD []) got
      rw [given]
      exact .inr (agrees.resolves_getAll got)
  | lookup name =>
    cases found : r.lookup name with
    | none => exact .inl (congrArg Option.toList found)
    | some fact =>
      have given : (r.serve (.lookup name)).2 = [fact] := congrArg Option.toList found
      rw [given]
      exact .inr (.cons ((agrees.inverse _ _).mp found) .nil)
  | configure name settings =>
    rw [serve]
    cases got : r.get name with
    | error e => exact .inl rfl
    | ok found =>
      have grown := grows_of_changes (changes_foldl_set found.1 found.2 settings)
      exact .inr (.cons ((agrees.stands_get got).mono grown) .nil)
  | perform fact => exact .inl rfl

/-- What is given out stands for a name. -/
theorem Agrees.exists_name?_of_serve (agrees : r.Agrees) (given : fact ∈ (r.serve request).2) :
  ∃ name, (r.serve request).1.name? fact = some name
  := by
  obtain none | resolves := agrees.resolves_serve request
  · rw [none] at given
    cases given
  · obtain ⟨name, -, stands⟩ := exists_of_mem_right resolves given
    exact ⟨_, stands⟩

/-! ### The vocabulary -/

theorem vocabulary_get (got : r.get name = .ok (s, fact)) :
  s.vocabulary = r.vocabulary
  := by
  obtain ⟨-, rfl⟩ | ⟨-, -, -, rfl⟩ := get_cases got
  · rfl
  · rfl

theorem vocabulary_getAll (r : Registry) (names : List String) :
  (r.getAll names).1.vocabulary = r.vocabulary
  := by
  induction names generalizing r with
  | nil => rfl
  | cons first names ih =>
    cases got : r.get first with
    | error e =>
      rw [getAll, got]
    | ok found =>
      rw [getAll_cons_of_ok got, ih, vocabulary_get got]

theorem vocabulary_set (r : Registry) (fact : FactId) (setting : FactSetting) :
  (r.set fact setting).vocabulary = r.vocabulary
  := by
  cases setting with
  | effect effect => exact r.vocabulary_modify fact _
  | repeatCount count =>
    unfold set setRepeat
    cases r.fact? fact with
    | none => rfl
    | some f =>
      by_cases zero : count = 0
      · rw [zero]
        rfl
      · have accepted : f.withRepeat count = .ok { f with repeatCount := count } := if_neg zero
        dsimp only
        rw [accepted]
        exact r.vocabulary_modify fact _

theorem vocabulary_foldl_set (r : Registry) (fact : FactId) (settings : List FactSetting) :
  (settings.foldl (fun r setting => r.set fact setting) r).vocabulary = r.vocabulary
  := by
  induction settings generalizing r with
  | nil => rfl
  | cons setting settings ih => exact (ih _).trans (r.vocabulary_set fact setting)

/-- Only a registration of which no name is blank adds to the vocabulary. -/
theorem vocabulary_serve (r : Registry) (request : Request) :
  (r.serve request).1.vocabulary = r.vocabulary.insertAll request.accepted
  := by
  cases request with
  | register names =>
    rw [serve, Registry.register, Request.accepted]
    cases blank : names.find? isBlankName with
    | some name =>
      have any : names.any isBlankName = true :=
        List.any_eq_true.mpr ⟨name, List.mem_of_find?_eq_some blank, List.find?_some blank⟩
      rw [any]
      rfl
    | none =>
      have visible : names.any isBlankName = false :=
        List.any_eq_false.mpr (List.find?_eq_none.mp blank)
      rw [visible]
      rfl
  | get name =>
    rw [serve]
    cases got : r.get name with
    | error e => rfl
    | ok found => exact vocabulary_get got
  | getAll names => exact r.vocabulary_getAll names
  | lookup name => rfl
  | configure name settings =>
    rw [serve]
    cases got : r.get name with
    | error e => rfl
    | ok found => exact (vocabulary_foldl_set _ _ _).trans (vocabulary_get got)
  | perform fact => rfl

/-- The names of a vocabulary stand in the order in which they were first registered. -/
theorem names_after (id : RegistryId) (requests : List Request) :
  ((empty id).after requests).vocabulary.names = (requests.flatMap (·.accepted)).eraseDups
  := by
  induction requests using List.reverseRecOn with
  | nil => rfl
  | append_singleton requests request ih =>
    rw [after_concat, vocabulary_serve, Vocabulary.names_insertAll ih, List.flatMap_append,
      List.flatMap_singleton]

/-! ### The whole -/

/-- The parts of the registry `r` agree: its number is `id`, and the names that have been accepted
for its vocabulary are `accepted`, in this order. -/
structure InAgreement (r : Registry) (id : RegistryId) (accepted : List String) : Prop where
  number : r.id = id
  /-- The vocabulary lists the accepted names, each where it first stands. -/
  names : r.vocabulary.names = accepted.eraseDups
  distinct : r.vocabulary.names.Nodup
  proper : ∀ name ∈ r.vocabulary.names, IsProper name
  /-- The index over the vocabulary is the set of its names. -/
  index : ∀ name, r.vocabulary.contains name = true ↔ name ∈ accepted
  known : ∀ fact ∈ r.facts, fact.name ∈ r.vocabulary.names
  /-- No two facts have the same name. -/
  once : (r.facts.toList.map (·.name)).Nodup
  /-- A fact carries the handle of its place. -/
  placed : ∀ i (fact : Fact), r.facts[i]? = some fact → fact.id = ⟨id, i⟩
  /-- The list of handles leads from a name to the fact that has it. -/
  inverse : ∀ name handle, r.handles.lookup name = some handle
    ↔ ∃ fact ∈ r.facts, fact.id = handle ∧ fact.name = name

/-- The handles of the registry `r` stand for names. -/
structure Identifies (r : Registry) : Prop where
  /-- The handle that is given out for a name stands for the trimmed name from then on. -/
  named : ∀ name s handle, r.get name = .ok (s, handle) →
    ∀ later, (s.after later).name? handle = some (Text.trimmed name)
  /-- Handles that are given out for names, one after the other, are equal exactly if the trimmed
  names are. -/
  same : ∀ name s handle between name' t handle', r.get name = .ok (s, handle) →
    (s.after between).get name' = .ok (t, handle') →
      (handle = handle' ↔ Text.trimmed name = Text.trimmed name')
  /-- Whatever is given out stands for a name, and for the same name forever. -/
  kept : ∀ request, ∀ handle ∈ (r.serve request).2, ∃ name,
    ∀ later, ((r.serve request).1.after later).name? handle = some name

theorem Agrees.fact?_eq_some_iff (agrees : r.Agrees) {found : Fact} :
  r.fact? fact = some found ↔ found ∈ r.facts ∧ found.id = fact
  := by
  unfold fact?
  constructor
  · intro there
    split at there
    · rename_i own
      constructor
      · exact Array.mem_of_getElem? there
      · rw [agrees.placed _ _ there, ← own]
    · cases there
  · rintro ⟨member, rfl⟩
    obtain ⟨i, at_i⟩ := Array.mem_iff_getElem?.mp member
    rw [agrees.placed i found at_i, if_pos rfl, at_i]

theorem Agrees.name?_eq_some_iff (agrees : r.Agrees) :
  r.name? fact = some name ↔ ∃ found ∈ r.facts, found.id = fact ∧ found.name = name
  := by
  unfold name?
  rw [Option.map_eq_some_iff]
  constructor
  · rintro ⟨found, there, named⟩
    obtain ⟨member, handle⟩ := agrees.fact?_eq_some_iff.mp there
    exact ⟨found, member, handle, named⟩
  · rintro ⟨found, member, handle, named⟩
    exact ⟨found, agrees.fact?_eq_some_iff.mpr ⟨member, handle⟩, named⟩

theorem Agrees.nodup_names (agrees : r.Agrees) :
  (r.facts.toList.map (·.name)).Nodup
  := by
  rw [List.Nodup, List.pairwise_iff_getElem]
  intro i j inside inside' before same
  simp only [List.length_map, Array.length_toList] at inside inside'
  simp only [List.getElem_map, Array.getElem_toList] at same
  have place : r.name? ⟨r.id, i⟩ = some r.facts[i].name := by
    simp [name?, fact?, inside]
  have place' : r.name? ⟨r.id, j⟩ = some r.facts[i].name := by
    simp [name?, fact?, inside', same]
  have equal := congrArg FactId.index (agrees.eq_of_name? place place')
  exact absurd equal (Nat.ne_of_lt before)

theorem inAgreement_after (id : RegistryId) (requests : List Request) :
  ((empty id).after requests).InAgreement id (requests.flatMap (·.accepted))
  := by
  have agrees := agrees_after id requests
  have number : ((empty id).after requests).id = id := ((empty id).grows_after requests).id
  constructor
  · exact number
  · exact names_after id requests
  · exact Vocabulary.nodup_names _
  · exact agrees.proper
  · intro name
    rw [Vocabulary.contains_iff, names_after, List.mem_eraseDups]
  · intro fact member
    apply agrees.known fact.id
    exact agrees.name?_eq_some_iff.mpr ⟨fact, member, rfl, rfl⟩
  · exact agrees.nodup_names
  · intro i fact at_i
    rw [agrees.placed i fact at_i, number]
  · intro name handle
    rw [agrees.inverse, agrees.name?_eq_some_iff]

theorem Agrees.identifies (agrees : r.Agrees) :
  r.Identifies
  := by
  constructor
  · intro name s handle got later
    exact (s.grows_after later).named _ _ (agrees.name?_get got)
  · intro name s handle between name' t handle' got got'
    have agrees' := (agrees.changes (changes_get got)).changes (s.changes_after between)
    have named : t.name? handle = some (Text.trimmed name) := by
      apply (grows_of_changes (changes_get got')).named
      exact (s.grows_after between).named _ _ (agrees.name?_get got)
    have named' : t.name? handle' = some (Text.trimmed name') := agrees'.name?_get got'
    constructor
    · rintro rfl
      rw [named] at named'
      exact Option.some.inj named'
    · intro equal
      rw [← equal] at named'
      exact (agrees'.changes (changes_get got')).eq_of_name? named named'
  · intro request handle given
    obtain ⟨name, named⟩ := agrees.exists_name?_of_serve given
    use name
    intro later
    exact ((r.serve request).1.grows_after later).named _ _ named

/-- Whatever a new registry is asked, its parts agree, and its handles stand for names. -/
theorem interning_after (id : RegistryId) (requests : List Request) :
  ((empty id).after requests).InAgreement id (requests.flatMap (·.accepted))
    ∧ ((empty id).after requests).Identifies
  := by
  constructor
  · exact inAgreement_after id requests
  · exact (agrees_after id requests).identifies

/-- Requests of which the second fails, and the third at its second name. -/
def weather : List Request :=
  [.register [" rain ", "sun"], .register ["snow", " "], .getAll ["sun", "hail", "rain"],
    .get "rain\n"]

theorem interning_after_weather :
  ((empty ⟨0⟩).after weather).vocabulary.names = ["rain", "sun"]
    ∧ ((empty ⟨0⟩).after weather).name? ⟨⟨0⟩, 0⟩ = some "sun"
    ∧ ((empty ⟨0⟩).after weather).name? ⟨⟨0⟩, 1⟩ = some "rain"
    ∧ ∀ later, (((empty ⟨0⟩).after weather).after later).name? ⟨⟨0⟩, 1⟩ = some "rain"
  := by
  obtain ⟨agreement, identifies⟩ := interning_after ⟨0⟩ weather
  refine ⟨?_, by decide +kernel, by decide +kernel, ?_⟩
  · rw [agreement.names]
    decide +kernel
  · intro later
    have got : ((empty ⟨0⟩).after weather).get "rain"
        = .ok ((empty ⟨0⟩).after weather, ⟨⟨0⟩, 1⟩) := by decide +kernel
    have trimmed : Text.trimmed "rain" = "rain" := by decide +kernel
    rw [identifies.named _ _ _ got later, trimmed]

end Registry

end ForwardChaining
