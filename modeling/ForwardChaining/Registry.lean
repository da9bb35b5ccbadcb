import ForwardChaining.Error
import ForwardChaining.Text.Basic

/-!
# Registries of facts

A registry owns a vocabulary and a table of facts, at most one for each name.  A name is
made a fact when it is first asked for, and its handle is the place it then takes in the
table.  A second list leads from the names of the facts back to their handles.  Names are
trimmed before they are used.

A `Registrar` gives out the numbers by which registries are told apart.
-/

namespace ForwardChaining

/-- A vocabulary and the facts made of its names. -/
structure Registry where
  id : RegistryId
  vocabulary : Vocabulary
  /-- The facts, each at the place its handle names. -/
  facts : Array Fact
  /-- The handles of the facts by their names, latest first. -/
  handles : List (String × FactId) := (facts.toList.map fun f => (f.name, f.id)).reverse
  deriving DecidableEq

namespace Registry

/-- The registry numbered `id` that knows no names. -/
def empty (id : RegistryId) : Registry where
  id := id
  vocabulary := .empty
  facts := #[]
  handles := []

/-! ### Names -/

/-- Nothing is left of the name when it is trimmed. -/
def isBlankName (name : String) : Bool :=
  (Text.trim name.toList).isEmpty

/-- Adds names to the vocabulary, and says how many of them were new.  If one of them is
blank, nothing is added. -/
def register (r : Registry) (names : List String) : Except Error (Registry × Nat) :=
  match names.find? isBlankName with
  | some name => fail (.invalidName name)
  | none =>
    let vocabulary := r.vocabulary.insertAll (names.map Text.trimmed)
    .ok ({ r with vocabulary := vocabulary }, vocabulary.size - r.vocabulary.size)

/-- The registry numbered `id` that knows the given names. -/
def ofNames (id : RegistryId) (names : List String) : Except Error Registry :=
  ((empty id).register names).map (·.1)

/-- The name, trimmed, is one of the vocabulary. -/
def containsName (r : Registry) (name : String) : Bool :=
  r.vocabulary.contains (Text.trimmed name)

/-! ### Facts -/

/-- The handle of the fact with the given name, if there is one already. -/
def lookup (r : Registry) (name : String) : Option FactId :=
  r.handles.lookup (Text.trimmed name)

/-- The handle of the fact with the given name, which is made at the first request. -/
def get (r : Registry) (name : String) : Except Error (Registry × FactId) :=
  match r.lookup name with
  | some id => .ok (r, id)
  | none =>
    let name := Text.trimmed name
    if r.vocabulary.contains name then
      let id : FactId := ⟨r.id, r.facts.size⟩
      .ok ({ r with
        facts := r.facts.push (.fresh id name)
        handles := (name, id) :: r.handles }, id)
    else fail (.unknownFact name)

/-- The handles of the facts with the given names.  At an unknown name the facts made for
the names before it stay. -/
def getAll (r : Registry) : List String → Registry × Except Error (List FactId)
  | [] => (r, .ok [])
  | name :: names =>
    match r.get name with
    | .error e => (r, .error e)
    | .ok (r, id) =>
      let (r, rest) := r.getAll names
      (r, rest.map (id :: ·))

/-- The fact behind a handle, if this registry issued the handle. -/
def fact? (r : Registry) (id : FactId) : Option Fact :=
  if id.registry = r.id then r.facts[id.index]? else none

/-- The registry with the fact behind a handle replaced by its image under `f`. -/
def modify (r : Registry) (id : FactId) (f : Fact → Fact) : Registry :=
  if id.registry = r.id then { r with facts := r.facts.modify id.index f } else r

/-- The registry with the effect of a fact replaced. -/
def setEffect (r : Registry) (id : FactId) (effect : Option Effect) : Registry :=
  r.modify id (·.withEffect effect)

/-- The registry with the repeat count of a fact set; a repeat count is at least one. -/
def setRepeat (r : Registry) (id : FactId) (count : Nat) : Except Error Registry :=
  match r.fact? id with
  | none => fail (.foreignFact id r.id)
  | some fact => do
    let fact ← fact.withRepeat count
    return r.modify id fun _ => fact

/-- The name behind a handle, if this registry issued the handle. -/
def name? (r : Registry) (id : FactId) : Option String :=
  (r.fact? id).map (·.name)

/-- The name behind a handle, or a question mark for a handle of another registry. -/
def displayName (r : Registry) (id : FactId) : String :=
  (r.name? id).getD "?"

/-- Checks that this registry issued the handle. -/
def check (r : Registry) (id : FactId) : Except Error Unit :=
  if (r.fact? id).isSome then .ok () else fail (.foreignFact id r.id)

/-- The invocations made when the fact behind a handle is concluded; there are none for a
handle of another registry. -/
def perform (r : Registry) (id : FactId) : List Invocation :=
  match r.fact? id with
  | some fact => fact.perform r.vocabulary
  | none => []

/-- A registry, for diagnosis. -/
def describe (r : Registry) : String :=
  "FactRegistry \x7b id: RegistryId(" ++ toString r.id.number ++ "), vocabulary: "
    ++ r.vocabulary.quoted ++ ", interned: " ++ toString r.facts.size ++ " \x7d"

end Registry

/-! ### Numbers of registries -/

/-- Gives out the numbers of registries, each once. -/
structure Registrar where
  /-- The number that is given out next. -/
  next : Nat
  deriving DecidableEq

namespace Registrar

/-- No number has been given out. -/
def initial : Registrar := ⟨0⟩

/-- A number that was not given out before. -/
def issue (r : Registrar) : RegistryId × Registrar :=
  (⟨r.next⟩, ⟨r.next + 1⟩)

end Registrar

end ForwardChaining
