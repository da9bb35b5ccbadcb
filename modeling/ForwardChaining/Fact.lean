import ForwardChaining.Vocabulary

/-!
# Facts

A fact is known by its handle, which says which registry issued it and at which place of
that registry's table it stands.  A fact can carry an effect, something that is said when
the fact is concluded; `Fact.perform` gives the invocations of the effect, as many as the
fact's repeat count.
-/

namespace ForwardChaining

/-- The number of a registry.  Numbers are given out in order and never twice. -/
structure RegistryId where
  number : Nat
  deriving DecidableEq, Inhabited

/-- The handle of a fact: the registry that issued it and its place in that registry. -/
structure FactId where
  registry : RegistryId
  index : Nat
  deriving DecidableEq, Inhabited

/-- A registry, as messages name it. -/
def RegistryId.describe (id : RegistryId) : String :=
  "registry #" ++ toString id.number

/-- A handle, as messages show it. -/
def FactId.describe (id : FactId) : String :=
  "FactId(" ++ toString id.registry.number ++ ":" ++ toString id.index ++ ")"

/-- Handles in order of registry, and within a registry in order of place. -/
def FactId.order (a b : FactId) : Ordering :=
  (compare a.registry.number b.registry.number).then (compare a.index b.index)

/-- What is said when an effect is invoked. -/
inductive Effect where
  /-- The given message is said. -/
  | say (message : String)
  /-- The name of the fact is said. -/
  | sayName
  deriving DecidableEq

/-- One invocation of an effect: what it was invoked with, and the effect. -/
structure Invocation where
  /-- The name of the concluded fact. -/
  fact : String
  /-- The names known to the registry at that time. -/
  vocabulary : Vocabulary
  effect : Effect
  deriving DecidableEq

/-- What an invocation says. -/
def Invocation.message (i : Invocation) : String :=
  match i.effect with
  | .say message => message
  | .sayName => i.fact

/-- A fact of a registry. -/
structure Fact where
  id : FactId
  name : String
  /-- How often the effect is invoked when the fact is concluded. -/
  repeatCount : Nat
  effect : Option Effect
  deriving DecidableEq

namespace Fact

/-- The fact `name` as it is when first asked for: without effect, with repeat count one. -/
def fresh (id : FactId) (name : String) : Fact where
  id := id
  name := name
  repeatCount := 1
  effect := none

/-- The fact with its effect replaced. -/
def withEffect (f : Fact) (effect : Option Effect) : Fact :=
  { f with effect := effect }

/-- The invocations made when `f` is concluded; each sees the same vocabulary. -/
def perform (f : Fact) (vocabulary : Vocabulary) : List Invocation :=
  match f.effect with
  | none => []
  | some effect => List.replicate f.repeatCount ⟨f.name, vocabulary, effect⟩

/-- A fact and its settings, for diagnosis. -/
def describe (f : Fact) : String :=
  "Fact \x7b id: " ++ f.id.describe ++ ", name: " ++ Text.quoted f.name
    ++ ", repeat: " ++ toString f.repeatCount
    ++ ", effect: " ++ (if f.effect.isSome then "Some(\"<fn>\")" else "None") ++ " \x7d"

end Fact

end ForwardChaining
