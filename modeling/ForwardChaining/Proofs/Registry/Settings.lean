import ForwardChaining.Proofs.Registry.Namesakes

/-!
# What requests do to settings

A request changes the settings of the fact that it names, and no others
(`Registry.Agrees.settings_serve`).  So the settings after some requests do not depend on requests
that only ask for handles (`Registry.Agrees.settings_after`), and a handle that was given out for a
name stands for it ever after (`Registry.Agrees.resolves_of_hands`).
-/

namespace ForwardChaining

namespace Registry

variable {r s : Registry} {name other : String} {fact : FactId} {request : Request}
  {requests : List Request}

/-- A name of the vocabulary has a handle, or is given one. -/
theorem exists_get (known : Text.trimmed name ∈ r.vocabulary.names) :
  ∃ found, r.get name = .ok found
  := by
  rw [get]
  cases r.lookup name with
  | some fact => exact ⟨_, rfl⟩
  | none =>
    dsimp only
    rw [if_pos ((r.vocabulary.contains_iff _).mpr known)]
    exact ⟨_, rfl⟩

/-! ### Settings -/

theorem fact?_intern (r : Registry) (name : String) (fact : FactId) :
  (r.intern name).fact? fact
    = if fact = ⟨r.id, r.facts.size⟩ then some (.fresh ⟨r.id, r.facts.size⟩ name) else r.fact? fact
  := by
  obtain ⟨registry, index⟩ := fact
  by_cases own : registry = r.id
  · by_cases next : index = r.facts.size
    · simp [fact?, intern, own, next]
    · simp [fact?, intern, own, next, Array.getElem?_push]
  · simp [fact?, intern, own]

/-- To make a fact of a name changes no settings. -/
theorem Agrees.settings_intern (agrees : r.Agrees) (new : r.handles.lookup name = none)
    (other : String) :
  (r.intern name).settings other = r.settings other
  := by
  unfold settings
  rw [lookup_intern]
  split
  · rename_i same
    rw [same, new, Option.bind_some, fact?_intern, if_pos rfl]
    rfl
  · cases found : r.handles.lookup other with
    | none => rfl
    | some fact =>
      rw [Option.bind_some, Option.bind_some, fact?_intern, if_neg]
      rintro rfl
      have named := (agrees.inverse _ _).mp found
      rw [name?_next] at named
      cases named

theorem Agrees.settings_get (agrees : r.Agrees) (got : r.get name = .ok (s, fact))
    (other : String) :
  s.settings other = r.settings other
  := by
  obtain ⟨-, rfl⟩ | ⟨new, -, -, rfl⟩ := get_cases got
  · rfl
  · apply agrees.settings_intern new

theorem Agrees.settings_getAll (agrees : r.Agrees) (names : List String) (other : String) :
  (r.getAll names).1.settings other = r.settings other
  := by
  induction names generalizing r with
  | nil => rfl
  | cons first names ih =>
    cases got : r.get first with
    | error e =>
      rw [getAll, got]
    | ok found =>
      rw [getAll_cons_of_ok got, ih (agrees.changes (changes_get got)), agrees.settings_get got]

/-- The registry `s` comes of `r` by requests for handles, which change no settings. -/
structure Asked (r s : Registry) : Prop extends r.Extends s where
  settings : ∀ name, s.settings name = r.settings name

theorem Asked.refl (r : Registry) :
  r.Asked r
  := ⟨.refl r, fun _ => rfl⟩

theorem Asked.trans {t : Registry} (first : r.Asked s) (rest : s.Asked t) :
  r.Asked t
  := ⟨first.toExtends.trans rest.toExtends,
    fun name => (rest.settings name).trans (first.settings name)⟩

theorem Agrees.asked_get (agrees : r.Agrees) (got : r.get name = .ok (s, fact)) :
  r.Asked s
  := ⟨extends_get got, agrees.settings_get got⟩

theorem Agrees.asked_getAll (agrees : r.Agrees) (names : List String) :
  r.Asked (r.getAll names).1
  := ⟨r.extends_getAll names, agrees.settings_getAll names⟩

/-- Settings are those of one fact. -/
theorem Agrees.settings_modify {f : Fact → Fact} (agrees : r.Agrees)
    (named : r.name? fact = some name) (other : String) :
  (r.modify fact f).settings other
    = if other = name then ((r.fact? fact).map f).elim {} Fact.settings else r.settings other
  := by
  unfold settings
  rw [handles_modify]
  cases found : r.handles.lookup other with
  | none =>
    rw [if_neg]
    · rfl
    · rintro rfl
      rw [(agrees.inverse _ _).mpr named] at found
      cases found
  | some fact' =>
    rw [Option.bind_some, Option.bind_some, fact?_modify]
    have named' := (agrees.inverse _ _).mp found
    by_cases same : other = name
    · subst same
      obtain rfl := agrees.eq_of_name? named named'
      rw [if_pos rfl, if_pos rfl]
    · rw [if_neg same, if_neg]
      rintro rfl
      rw [named] at named'
      cases named'
      apply same rfl

/-- To change a setting changes it for one name. -/
theorem Agrees.settings_set (agrees : r.Agrees) (named : r.name? fact = some name)
    (setting : FactSetting) (other : String) :
  (r.set fact setting).settings other
    = if other = name then (r.settings other).set setting else r.settings other
  := by
  obtain ⟨found, there, -, settings⟩ := agrees.exists_fact named
  cases setting with
  | effect effect =>
    rw [set, setEffect, agrees.settings_modify named, there]
    split
    · rename_i same
      rw [same, ← settings]
      rfl
    · rfl
  | repeatCount count =>
    rw [set, setRepeat, there]
    dsimp only
    by_cases zero : count = 0
    · have refused : found.withRepeat count = fail (.invalidRepeat found.name) := if_pos zero
      have unchanged : (r.settings other).set (.repeatCount count) = r.settings other := if_pos zero
      rw [refused, unchanged, ite_self]
      rfl
    · have accepted : found.withRepeat count = .ok { found with repeatCount := count } :=
        if_neg zero
      have changed : (r.settings other).set (.repeatCount count)
          = { r.settings other with repeatCount := count } := if_neg zero
      rw [accepted, changed]
      refine (agrees.settings_modify named other).trans ?_
      rw [there]
      split
      · rename_i same
        rw [same, ← settings]
        rfl
      · rfl

theorem Agrees.settings_foldl_set (agrees : r.Agrees) (named : r.name? fact = some name)
    (settings : List FactSetting) (other : String) :
  (settings.foldl (fun r setting => r.set fact setting) r).settings other
    = if other = name then settings.foldl FactSettings.set (r.settings other)
      else r.settings other
  := by
  induction settings generalizing r with
  | nil =>
    rw [List.foldl_nil, List.foldl_nil, ite_self]
  | cons setting settings ih =>
    have changes := r.changes_set fact setting
    rw [List.foldl_cons, ih (agrees.changes changes) ((grows_of_changes changes).named _ _ named),
      agrees.settings_set named, List.foldl_cons]
    split <;> rfl

/-! ### Requests -/

/-- The settings that a request changes, and the name of the fact that has them. -/
def Request.configured? : Request → Option (String × List FactSetting)
  | .configure name settings => some (name, settings)
  | _ => none

/-- The request does not register names. -/
def Request.asks : Request → Bool
  | .register _ => false
  | _ => true

/-- The settings of a name, after those of a fact were changed. -/
def configured (v : Vocabulary) (name : String) (before : FactSettings)
    (change : String × List FactSetting) : FactSettings :=
  if name = Text.trimmed change.1 ∧ name ∈ v.names then change.2.foldl FactSettings.set before
  else before

theorem vocabulary_of_asks (asks : request.asks = true) (r : Registry) :
  (r.serve request).1.vocabulary = r.vocabulary
  := by
  rw [vocabulary_serve]
  cases request with
  | register names => cases asks
  | _ => rfl

/-- A request changes the settings that it names, and no others. -/
theorem Agrees.settings_serve (agrees : r.Agrees) (request : Request) (name : String) :
  (r.serve request).1.settings name
    = request.configured?.elim (r.settings name) (configured r.vocabulary name (r.settings name))
  := by
  cases request with
  | register names =>
    rw [serve, Registry.register]
    cases names.find? isBlankName <;> rfl
  | get first =>
    rw [serve]
    cases got : r.get first with
    | error e => rfl
    | ok found => apply agrees.settings_get got
  | getAll names => apply agrees.settings_getAll
  | lookup first => rfl
  | configure first settings =>
    change _ = configured r.vocabulary name (r.settings name) (first, settings)
    rw [serve, configured]
    cases got : r.get first with
    | error e =>
      have unknown : ¬(name = Text.trimmed first ∧ name ∈ r.vocabulary.names) := by
        rintro ⟨rfl, known⟩
        obtain ⟨found, got'⟩ := exists_get known
        rw [got] at got'
        cases got'
      rw [if_neg unknown]
      rfl
    | ok found =>
      obtain ⟨s, fact⟩ := found
      have named := agrees.name?_get got
      have known : Text.trimmed first ∈ r.vocabulary.names := by
        rw [← vocabulary_get got]
        apply (agrees.changes (changes_get got)).known _ _ named
      have folded := (agrees.changes (changes_get got)).settings_foldl_set named settings name
      rw [agrees.settings_get got] at folded
      refine folded.trans ?_
      by_cases same : name = Text.trimmed first
      · rw [if_pos same, if_pos ⟨same, same ▸ known⟩]
      · rw [if_neg same, if_neg fun both => same both.1]
  | perform fact => rfl

/-- The settings after some requests are those that the requests give, in order. -/
theorem Agrees.settings_after (agrees : r.Agrees) (asks : ∀ request ∈ requests, request.asks = true)
    (name : String) :
  (r.after requests).vocabulary = r.vocabulary
    ∧ (r.after requests).settings name
      = (requests.filterMap Request.configured?).foldl (configured r.vocabulary name)
        (r.settings name)
  := by
  induction requests generalizing r with
  | nil => exact ⟨rfl, rfl⟩
  | cons request requests ih =>
    obtain ⟨first, rest⟩ := List.forall_mem_cons.mp asks
    have vocabulary := vocabulary_of_asks first r
    obtain ⟨known, settings⟩ := ih (agrees.changes (r.changes_serve request)) rest
    rw [vocabulary] at known settings
    apply And.intro known
    refine settings.trans ?_
    rw [agrees.settings_serve, List.filterMap_cons]
    cases request.configured? <;> rfl

/-- Requests that change no setting leave the settings as they are. -/
theorem Agrees.settings_after_of_unset (agrees : r.Agrees)
    (unset : ∀ request ∈ requests, request.configured? = none) (name : String) :
  (r.after requests).settings name = r.settings name
  := by
  induction requests generalizing r with
  | nil => rfl
  | cons request requests ih =>
    obtain ⟨first, rest⟩ := List.forall_mem_cons.mp unset
    refine (ih (agrees.changes (r.changes_serve request)) rest).trans ?_
    rw [agrees.settings_serve, first]
    rfl

/-- The handles that are given out for requests in order, each with the name it is given for. -/
def handed (r : Registry) : List Request → List (String × FactId)
  | [] => []
  | request :: rest => request.names.zip (r.serve request).2 ++ (r.serve request).1.handed rest

/-- The handles are given out for the names, one for each, in answer to the requests. -/
def Hands (r : Registry) (requests : List Request) (names : List String) (facts : List FactId) :
    Prop :=
  List.Forall₂ (fun name fact => (name, fact) ∈ r.handed requests) names facts

/-- A handle stands for the name that it is given for. -/
theorem Agrees.stands_of_serve (agrees : r.Agrees)
    (given : (name, fact) ∈ request.names.zip (r.serve request).2) :
  (r.serve request).1.Stands name fact
  := by
  obtain none | resolves := agrees.resolves_serve request
  · rw [none, List.zip_nil_right] at given
    cases given
  · apply List.forall₂_zip resolves given

theorem Agrees.stands_of_handed (agrees : r.Agrees) (given : (name, fact) ∈ r.handed requests) :
  (r.after requests).Stands name fact
  := by
  induction requests generalizing r with
  | nil => cases given
  | cons request requests ih =>
    rw [handed, List.mem_append] at given
    obtain first | later := given
    · apply (agrees.stands_of_serve first).mono
      apply (r.serve request).1.grows_after requests
    · apply ih (agrees.changes (r.changes_serve request)) later

theorem Agrees.resolves_of_hands {names : List String} {facts : List FactId} (agrees : r.Agrees)
    (hands : r.Hands requests names facts) :
  (r.after requests).Resolves names facts
  := hands.imp fun _ _ => agrees.stands_of_handed

end Registry

end ForwardChaining
