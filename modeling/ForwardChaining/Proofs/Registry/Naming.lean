import ForwardChaining.Proofs.Registry.Interning

/-!
# Names and what they are resolved to

A registry that is asked for handles, and gives facts settings, grows but registers no names
(`Registry.Extends`).  In one registry two handles for the same name are the same
(`Registry.Agrees.eq_of_stands`), so handles can be told by their names in whatever order they
stand (`Registry.Covers`).
-/

namespace ForwardChaining

namespace Registry

variable {r s : Registry} {name : String} {fact other : FactId} {names : List String}
  {facts : List FactId}

/-- The registry `s` comes of `r`, without any name having been registered. -/
structure Extends (r s : Registry) : Prop where
  changes : Relation.ReflTransGen Changes r s
  vocabulary : s.vocabulary = r.vocabulary

theorem Extends.refl (r : Registry) :
  r.Extends r
  := ⟨.refl, rfl⟩

theorem Extends.trans {t : Registry} (first : r.Extends s) (rest : s.Extends t) :
  r.Extends t
  := ⟨first.changes.trans rest.changes, rest.vocabulary.trans first.vocabulary⟩

theorem Extends.grows (extended : r.Extends s) :
  r.Grows s
  := grows_of_changes extended.changes

theorem extends_get (got : r.get name = .ok (s, fact)) :
  r.Extends s
  := ⟨changes_get got, vocabulary_get got⟩

theorem extends_getAll (r : Registry) (names : List String) :
  r.Extends (r.getAll names).1
  := ⟨r.changes_getAll names, r.vocabulary_getAll names⟩

theorem extends_set (r : Registry) (fact : FactId) (setting : FactSetting) :
  r.Extends (r.set fact setting)
  := ⟨r.changes_set fact setting, r.vocabulary_set fact setting⟩

/-- A name has only one handle. -/
theorem Agrees.eq_of_stands (agrees : r.Agrees) (stands : r.Stands name fact)
    (stands' : r.Stands name other) :
  fact = other
  := agrees.eq_of_name? stands stands'

/-- The handles are those of the names, in whatever order. -/
structure Covers (r : Registry) (names : List String) (facts : List FactId) : Prop where
  named : ∀ fact ∈ facts, ∃ name ∈ names, r.Stands name fact
  exists_handle : ∀ name ∈ names, ∃ fact ∈ facts, r.Stands name fact

theorem Resolves.covers (resolves : r.Resolves names facts) :
  r.Covers names facts
  := by
  constructor
  · intro fact member
    apply exists_of_mem_right resolves member
  · intro name member
    apply exists_of_mem_left resolves member

end Registry

end ForwardChaining
