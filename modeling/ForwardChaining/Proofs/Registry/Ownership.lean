import ForwardChaining.Proofs.Registry.Interning
import ForwardChaining.Proofs.Solver.Creation

/-!
# Handles and their registries

Registries that exist side by side give out handles, each for facts of its own
(`Registries.owned_after`).  However they are used, a registry accepts a handle that has been given
out if it has given it out itself, and refuses every other; and a solver is created over it exactly
if it has given out every handle of the inputs and of the rules, and otherwise the first that it has
not is reported.
-/

namespace ForwardChaining

/-- The registries that have been created so far, and what they have given out. -/
structure Registries where
  registrar : Registrar
  /-- The registries, in order of creation. -/
  all : List Registry
  /-- The handles that have been given out, each with the place of the registry that gave it out. -/
  given : List (Nat × FactId)

namespace Registries

/-- No registry has been created. -/
def none : Registries where
  registrar := .initial
  all := []
  given := []

/-- What can be done with registries. -/
inductive Act where
  /-- Another registry is created, which knows the given names.  If one of them is blank, there is
  no registry, but its number is gone. -/
  | create (names : List String)
  /-- The registry at a place is asked something. -/
  | ask (place : Nat) (request : Registry.Request)
  deriving DecidableEq

/-- The registries after an act. -/
def act (w : Registries) : Act → Registries
  | .create names =>
    let (id, registrar) := w.registrar.issue
    { w with
      registrar := registrar
      all := w.all ++ (Registry.ofNames id names).toOption.toList }
  | .ask place request =>
    w.all[place]?.elim w fun r =>
      { w with
        all := w.all.set place (r.serve request).1
        given := w.given ++ (r.serve request).2.map fun fact => (place, fact) }

/-- The registries after the given acts, in order. -/
def after (w : Registries) (acts : List Act) : Registries :=
  acts.foldl act w

/-- The handles that have been given out. -/
def handles (w : Registries) : List FactId :=
  w.given.map (·.2)

variable {w : Registries} {r s : Registry} {i j : Nat} {fact : FactId} {acts : List Act}

/-! ### What every act keeps -/

/-- Registries have numbers of their own, and have facts for what they have given out. -/
structure Apart (w : Registries) : Prop where
  numbered : ∀ r ∈ w.all, r.id.number < w.registrar.next
  distinct : (w.all.map (·.id)).Nodup
  agrees : ∀ r ∈ w.all, r.Agrees
  issued : ∀ entry ∈ w.given, ∃ r, w.all[entry.1]? = some r ∧ r.Issued entry.2

theorem apart_none :
  none.Apart
  := by
  constructor
  · exact List.forall_mem_nil _
  · exact List.nodup_nil
  · exact List.forall_mem_nil _
  · exact List.forall_mem_nil _

/-- A registry of given names is a new one that has been asked to register them. -/
theorem of_ofNames {id : RegistryId} {names : List String}
    (made : Registry.ofNames id names = .ok r) :
  r.id = id ∧ r.Agrees
  := by
  have registered : r = ((Registry.empty id).serve (.register names)).1 := by
    rw [Registry.serve]
    unfold Registry.ofNames at made
    cases outcome : (Registry.empty id).register names with
    | error e =>
      rw [outcome] at made
      cases made
    | ok found =>
      rw [outcome] at made
      cases made
      rfl
  rw [registered]
  constructor
  · exact ((Registry.empty id).grows_serve _).id
  · exact (Registry.agrees_empty id).changes ((Registry.empty id).changes_serve _)

theorem Apart.create (apart : w.Apart) (names : List String) :
  (w.act (.create names)).Apart
  := by
  have new : ∀ r ∈ (Registry.ofNames w.registrar.issue.1 names).toOption.toList,
      r.id = w.registrar.issue.1 ∧ r.Agrees := by
    intro r member
    apply of_ofNames
    cases made : Registry.ofNames w.registrar.issue.1 names with
    | error e =>
      rw [made] at member
      cases member
    | ok s =>
      rw [made] at member
      rw [List.mem_singleton.mp member]
  constructor
  · intro r member
    obtain old | added := List.mem_append.mp member
    · exact Nat.lt_succ_of_lt (apart.numbered r old)
    · rw [(new r added).1]
      exact Nat.lt_succ_self _
  · change List.Nodup
      ((w.all ++ (Registry.ofNames w.registrar.issue.1 names).toOption.toList).map (·.id))
    rw [List.map_append, List.nodup_append]
    refine ⟨apart.distinct, ?_, ?_⟩
    · cases Registry.ofNames w.registrar.issue.1 names with
      | error e => exact List.nodup_nil
      | ok r => exact List.nodup_cons.mpr ⟨List.not_mem_nil, List.nodup_nil⟩
    · intro a old b added same
      obtain ⟨r, member, rfl⟩ := List.mem_map.mp old
      obtain ⟨s, member', rfl⟩ := List.mem_map.mp added
      have below := apart.numbered r member
      rw [same, (new s member').1] at below
      exact Nat.lt_irrefl _ below
  · intro r member
    obtain old | added := List.mem_append.mp member
    · exact apart.agrees r old
    · exact (new r added).2
  · intro entry member
    obtain ⟨s, there, issued⟩ := apart.issued entry member
    use s
    refine ⟨?_, issued⟩
    exact (List.getElem?_append_left (List.getElem?_eq_some_iff.mp there).1).trans there

theorem issued_iff_exists_name? :
  r.Issued fact ↔ ∃ name, r.name? fact = some name
  := by
  rw [Registry.Issued, ← Option.isSome_map (f := Fact.name), Option.isSome_iff_exists]
  rfl

theorem act_ask (there : w.all[i]? = some r) (request : Registry.Request) :
  w.act (.ask i request) =
    { w with
      all := w.all.set i (r.serve request).1
      given := w.given ++ (r.serve request).2.map fun fact => (i, fact) }
  := by
  rw [act, there]
  rfl

theorem Apart.ask (apart : w.Apart) (place : Nat) (request : Registry.Request) :
  (w.act (.ask place request)).Apart
  := by
  cases there : w.all[place]? with
  | none =>
    rw [act, there]
    exact apart
  | some r =>
    have inside := (List.getElem?_eq_some_iff.mp there).1
    have member : r ∈ w.all := List.mem_of_getElem? there
    have grows := r.grows_serve request
    have ids : (w.all.set place (r.serve request).1).map (·.id) = w.all.map (·.id) := by
      have same : (w.all.map (·.id))[place]? = some r.id := by
        rw [List.getElem?_map, there]
        rfl
      obtain ⟨_, same⟩ := List.getElem?_eq_some_iff.mp same
      rw [List.map_set, grows.id, ← same]
      exact List.set_getElem_self _
    rw [act_ask there]
    constructor
    · intro s among
      obtain old | rfl := List.mem_or_eq_of_mem_set among
      · exact apart.numbered s old
      · rw [grows.id]
        exact apart.numbered r member
    · change ((w.all.set place (r.serve request).1).map (·.id)).Nodup
      rw [ids]
      exact apart.distinct
    · intro s among
      obtain old | rfl := List.mem_or_eq_of_mem_set among
      · exact apart.agrees s old
      · exact (apart.agrees r member).changes (r.changes_serve request)
    · intro entry member'
      obtain old | new := List.mem_append.mp member'
      · obtain ⟨s, at_entry, issued⟩ := apart.issued entry old
        by_cases same : entry.1 = place
        · use (r.serve request).1
          rw [same] at at_entry ⊢
          rw [there] at at_entry
          cases at_entry
          obtain ⟨name, named⟩ := issued_iff_exists_name?.mp issued
          constructor
          · exact List.getElem?_set_self inside
          · exact issued_iff_exists_name?.mpr ⟨name, grows.named _ _ named⟩
        · use s
          refine ⟨?_, issued⟩
          exact (List.getElem?_set_ne (Ne.symm same)).trans at_entry
      · obtain ⟨fact, served, rfl⟩ := List.mem_map.mp new
        use (r.serve request).1
        constructor
        · exact List.getElem?_set_self inside
        · exact issued_iff_exists_name?.mpr ((apart.agrees r member).exists_name?_of_serve served)

theorem apart_after (acts : List Act) :
  (none.after acts).Apart
  := by
  induction acts using List.reverseRecOn with
  | nil => exact apart_none
  | append_singleton acts act ih =>
    have last : none.after (acts ++ [act]) = (none.after acts).act act := List.foldl_append
    rw [last]
    cases act with
    | create names => exact ih.create names
    | ask place request => exact ih.ask place request

/-! ### Handles that are held -/

theorem registry_of_issued (issued : r.Issued fact) :
  fact.registry = r.id
  := by
  unfold Registry.Issued Registry.fact? at issued
  split at issued
  · rename_i own
    exact own
  · cases issued

/-- Of the handles that have been given out, a registry has a fact for those that it has given out
itself. -/
theorem Apart.issued_iff (apart : w.Apart) (there : w.all[i]? = some r) (held : fact ∈ w.handles) :
  r.Issued fact ↔ (i, fact) ∈ w.given
  := by
  constructor
  · intro issued
    obtain ⟨⟨j, _⟩, entry, rfl⟩ := List.mem_map.mp held
    obtain ⟨s, there', issued'⟩ := apart.issued _ entry
    have same : (w.all.map (·.id))[i]? = (w.all.map (·.id))[j]? := by
      rw [List.getElem?_map, List.getElem?_map, there, there']
      exact congrArg some ((registry_of_issued issued).symm.trans (registry_of_issued issued'))
    have inside : i < (w.all.map (·.id)).length := by
      rw [List.length_map]
      exact (List.getElem?_eq_some_iff.mp there).1
    rw [(List.getElem?_inj inside apart.distinct).mp same]
    exact entry
  · intro entry
    obtain ⟨s, there', issued⟩ := apart.issued _ entry
    rw [there] at there'
    cases there'
    exact issued

/-! ### Checks in a row -/

/-- The verdict on handles of which the given one is the first that the registry refuses. -/
def verdict {α : Type} (r : Registry) (accepted : α) : Option FactId → Except Error α
  | Option.none => .ok accepted
  | some fact => fail (.foreignFact fact r.id)

instance (r : Registry) (fact : FactId) : Decidable (r.Issued fact) :=
  inferInstanceAs (Decidable ((r.fact? fact).isSome = true))

theorem check_eq (r : Registry) (fact : FactId) :
  r.check fact = if r.Issued fact then .ok () else fail (.foreignFact fact r.id)
  := rfl

/-- Handles are checked up to the first that is refused. -/
theorem forM_check (r : Registry) (p : FactId → Bool) (facts : List FactId)
    (decides : ∀ fact ∈ facts, p fact = true ↔ r.Issued fact) :
  facts.forM r.check = verdict r () (facts.find? fun fact => !p fact)
  := by
  induction facts with
  | nil => rfl
  | cons fact facts ih =>
    obtain ⟨first, rest⟩ := List.forall_mem_cons.mp decides
    have unfolded : (fact :: facts).forM r.check
        = r.check fact >>= fun _ => facts.forM r.check := rfl
    rw [unfolded, check_eq, List.find?_cons]
    cases issued : p fact with
    | true =>
      rw [if_pos (first.mp issued)]
      exact ih rest
    | false =>
      rw [if_neg (fun passed => Bool.eq_false_iff.mp issued (first.mpr passed))]
      rfl

/-- The handles of inputs and rules, in the order in which they are checked. -/
def mentioned (inputs : List FactId) (rules : List Rule) : List FactId :=
  inputs ++ rules.flatMap fun rule => rule.conditions ++ rule.conclusions

theorem forM_check_append (r : Registry) (facts more : List FactId) :
  (facts ++ more).forM r.check = facts.forM r.check >>= fun _ => more.forM r.check
  := List.forM_append

/-- To create a solver is to check all its handles. -/
theorem create_eq (r : Registry) (inputs : List FactId) (rules : List Rule)
    (config : SolverConfig) :
  Solver.create r inputs rules config
    = (mentioned inputs rules).forM r.check >>= fun _ =>
      .ok (Solver.initial r inputs rules config)
  := by
  have validated : ∀ rules : List Rule, (rules.forM fun rule => rule.validate r)
      = (rules.flatMap fun rule => rule.conditions ++ rule.conclusions).forM r.check := by
    intro rules
    induction rules with
    | nil => rfl
    | cons rule rules ih =>
      rw [List.flatMap_cons, forM_check_append, ← ih]
      rfl
  rw [mentioned, forM_check_append, ← validated, bind_assoc]
  rfl

/-- Whatever is done with registries, each accepts the handles that it has given out itself and
refuses those of the others; and over it a solver is created of its own handles, while the first of
another is reported. -/
theorem owned_after (acts : List Act) (there : (none.after acts).all[i]? = some r) :
  (∀ fact ∈ (none.after acts).handles, r.check fact =
      if (i, fact) ∈ (none.after acts).given then .ok () else fail (.foreignFact fact r.id))
    ∧ ∀ inputs rules config,
      (∀ fact ∈ mentioned inputs rules, fact ∈ (none.after acts).handles) →
        Solver.create r inputs rules config =
          match (mentioned inputs rules).find? fun fact => (i, fact) ∉ (none.after acts).given with
          | Option.none => .ok (Solver.initial r inputs rules config)
          | some fact => fail (.foreignFact fact r.id)
  := by
  have apart := apart_after acts
  constructor
  · intro fact held
    rw [check_eq]
    simp only [apart.issued_iff there held]
  · intro inputs rules config held
    have checked := forM_check r (fun fact => (i, fact) ∈ (none.after acts).given)
      (mentioned inputs rules) (by
        intro fact member
        rw [decide_eq_true_iff, apart.issued_iff there (held fact member)])
    rw [create_eq, checked]
    simp only [← decide_not]
    cases (mentioned inputs rules).find? fun fact => (i, fact) ∉ (none.after acts).given with
    | none => rfl
    | some fact => rfl

/-! ### Twins -/

/-- Two registries that know the name A and have been asked for its handle. -/
def twins : List Act :=
  [.create ["A"], .create ["A"], .ask 0 (.get "A"), .ask 1 (.get "A")]

/-- The handle that the registry with the given number has given out for A. -/
def twin (number : Nat) : FactId :=
  ⟨⟨number⟩, 0⟩

theorem owned_after_twins :
  (none.after twins).handles = [twin 0, twin 1]
    ∧ ∃ r, (none.after twins).all[1]? = some r ∧ r.name? (twin 1) = some "A"
      ∧ r.check (twin 1) = .ok () ∧ r.check (twin 0) = fail (.foreignFact (twin 0) ⟨1⟩)
      ∧ ∀ config, Solver.create r [twin 1] [.implies [twin 1] [twin 0]] config
          = fail (.foreignFact (twin 0) ⟨1⟩)
  := by
  have held : (none.after twins).handles = [twin 0, twin 1] := by decide +kernel
  obtain ⟨r, there⟩ : ∃ r, (none.after twins).all[1]? = some r :=
    Option.isSome_iff_exists.mp (by decide +kernel)
  have named : (none.after twins).all[1]?.bind (·.name? (twin 1)) = some "A" := by decide +kernel
  have id : (none.after twins).all[1]?.map (·.id) = some ⟨1⟩ := by decide +kernel
  rw [there] at named id
  have number : r.id = ⟨1⟩ := Option.some.inj id
  obtain ⟨checked, created⟩ := owned_after twins there
  rw [held, number] at checked created
  refine ⟨held, r, there, named, ?_, ?_, ?_⟩
  · rw [checked _ (by decide), if_pos (by decide +kernel)]
  · rw [checked _ (by decide), if_neg (by decide +kernel)]
  · intro config
    rw [created _ _ _ (by decide)]
    have first : (mentioned [twin 1] [.implies [twin 1] [twin 0]]).find?
        (fun fact => (1, fact) ∉ (none.after twins).given) = some (twin 0) := by decide +kernel
    rw [first]

end Registries

end ForwardChaining
