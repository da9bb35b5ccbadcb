import Mathlib.Logic.Relator
import ForwardChaining.Proofs.Registry.Naming

/-!
# Namesakes

Two registries may give out different handles for the same names, since a handle tells no more than
when its name was first asked for.  Handles are namesakes if they stand for the same name, each in
its own registry.  If the registries know the same names, and the same settings for each, then no
answer about a handle differs from the answer about its namesake (`Registry.Alike`).
-/

namespace ForwardChaining

/-- What happens when a fact is concluded. -/
structure FactSettings where
  effect : Option Effect := none
  /-- How often the effect is invoked. -/
  repeatCount : Nat := 1
  deriving DecidableEq

/-- The settings after one was changed; a repeat count of zero is refused. -/
def FactSettings.set (s : FactSettings) : FactSetting → FactSettings
  | .effect effect => { s with effect := effect }
  | .repeatCount count => if count = 0 then s else { s with repeatCount := count }

/-- The settings of a fact. -/
def Fact.settings (f : Fact) : FactSettings where
  effect := f.effect
  repeatCount := f.repeatCount

/-- What a fact says depends on its name, its settings and the vocabulary. -/
theorem Fact.perform_congr {f g : Fact} (name : f.name = g.name)
    (settings : f.settings = g.settings) (vocabulary : Vocabulary) :
  f.perform vocabulary = g.perform vocabulary
  := by
  have effect : f.effect = g.effect := congrArg FactSettings.effect settings
  have count : f.repeatCount = g.repeatCount := congrArg FactSettings.repeatCount settings
  rw [perform, perform, name, effect, count]

namespace Registry

variable {r s : Registry} {name : String} {f g : FactId}

/-- The settings of the fact with the given name; one that has not been asked for has those it will
have at first. -/
def settings (r : Registry) (name : String) : FactSettings :=
  ((r.handles.lookup name).bind r.fact?).elim {} Fact.settings

/-- The handles are namesakes: each stands for the same name in its registry. -/
def Same (r s : Registry) (f g : FactId) : Prop :=
  ∃ name, r.name? f = some name ∧ s.name? g = some name

/-- The registries know the same names, and the same settings for each. -/
structure Alike (r s : Registry) : Prop where
  left : r.Agrees
  right : s.Agrees
  vocabulary : r.vocabulary = s.vocabulary
  settings : ∀ name, r.settings name = s.settings name

theorem Alike.symm (alike : r.Alike s) :
  s.Alike r
  := ⟨alike.right, alike.left, alike.vocabulary.symm, fun name => (alike.settings name).symm⟩

theorem Same.symm (same : r.Same s f g) :
  s.Same r g f
  := by
  obtain ⟨name, left, right⟩ := same
  exact ⟨name, right, left⟩

theorem same_of_stands (left : r.Stands name f) (right : s.Stands name g) :
  r.Same s f g
  := ⟨_, left, right⟩

theorem same_of_resolves {names : List String} {fs gs : List FactId} (left : r.Resolves names fs)
    (right : s.Resolves names gs) :
  List.Forall₂ (r.Same s) fs gs
  := together_of_common left right fun _ _ _ => same_of_stands

/-! ### Answers about namesakes -/

/-- A handle has one namesake. -/
theorem Alike.biUnique (alike : r.Alike s) :
  Relator.BiUnique (r.Same s)
  := by
  constructor
  · rintro f f' g ⟨name, left, right⟩ ⟨name', left', right'⟩
    rw [right] at right'
    cases right'
    apply alike.left.eq_of_name? left left'
  · rintro f g g' ⟨name, left, right⟩ ⟨name', left', right'⟩
    rw [left] at left'
    cases left'
    apply alike.right.eq_of_name? right right'

theorem Same.displayName_eq (same : r.Same s f g) :
  r.displayName f = s.displayName g
  := by
  obtain ⟨name, left, right⟩ := same
  rw [displayName, left, displayName, right]

theorem check_of_name? (named : r.name? f = some name) :
  r.check f = .ok ()
  := by
  obtain ⟨found, there, -⟩ := Option.map_eq_some_iff.mp named
  rw [check, there]
  rfl

/-- The fact behind a handle has the settings of its name. -/
theorem Agrees.exists_fact (agrees : r.Agrees) (named : r.name? f = some name) :
  ∃ found, r.fact? f = some found ∧ found.name = name ∧ found.settings = r.settings name
  := by
  obtain ⟨found, there, same⟩ := Option.map_eq_some_iff.mp named
  use found, there, same
  rw [settings, (agrees.inverse name f).mpr named, Option.bind_some, there]
  rfl

/-- The facts behind namesakes have the same name and the same settings. -/
theorem Alike.exists_facts (alike : r.Alike s) (same : r.Same s f g) :
  ∃ left right, r.fact? f = some left ∧ s.fact? g = some right
    ∧ left.name = right.name ∧ left.settings = right.settings
  := by
  obtain ⟨name, named, named'⟩ := same
  obtain ⟨left, there, rfl, settings⟩ := alike.left.exists_fact named
  obtain ⟨right, there', name, settings'⟩ := alike.right.exists_fact named'
  exact ⟨left, right, there, there', name.symm,
    settings.trans ((alike.settings _).trans settings'.symm)⟩

theorem Alike.perform_eq (alike : r.Alike s) (same : r.Same s f g) :
  r.perform f = s.perform g
  := by
  obtain ⟨left, right, there, there', name, settings⟩ := alike.exists_facts same
  rw [perform, there, perform, there']
  dsimp only
  rw [Fact.perform_congr name settings, alike.vocabulary]

/-- Handles that are found for a name are namesakes. -/
theorem Alike.same_of_lookup (alike : r.Alike s) (left : r.lookup name = some f)
    (right : s.lookup name = some g) :
  r.Same s f g
  := ⟨_, (alike.left.inverse _ f).mp left, (alike.right.inverse _ g).mp right⟩

/-- A handle that is found for a name has no namesake where none is found for the name. -/
theorem Alike.not_same_of_lookup (alike : r.Alike s) (left : r.lookup name = some f)
    (right : s.lookup name = none) (g : FactId) :
  ¬r.Same s f g
  := by
  rintro ⟨name', named, named'⟩
  have found := (alike.left.inverse _ f).mp left
  rw [found] at named
  cases named
  have there : s.lookup name = some g := (alike.right.inverse _ g).mpr named'
  rw [right] at there
  cases there

/-- A name for which a handle is found is one of the vocabulary. -/
theorem Agrees.containsName_of_lookup (agrees : r.Agrees) (found : r.lookup name = some f) :
  r.containsName name = true
  := (r.vocabulary.contains_iff _).mpr (agrees.known _ _ ((agrees.inverse _ f).mp found))

end Registry

end ForwardChaining
