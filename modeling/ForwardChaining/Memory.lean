import ForwardChaining.Log
import ForwardChaining.Registry

/-!
# Working memory

The working memory records the asserted facts in the order of assertion.  A fact asserted
twice stands in the sequence twice; membership takes no account of that, and is decided by
the set of the facts present.
-/

namespace ForwardChaining

/-- The asserted facts. -/
structure WorkingMemory where
  /-- The assertions, in order. -/
  log : Log FactId
  /-- The facts present, each once. -/
  present : List FactId
  deriving DecidableEq

namespace WorkingMemory

/-- The memory in which nothing has been asserted. -/
def empty : WorkingMemory := ⟨.empty, []⟩

/-- The assertions, oldest first. -/
def sequence (m : WorkingMemory) : List FactId :=
  m.log.toList

/-- The memory with one more assertion. -/
def assert (m : WorkingMemory) (fact : FactId) : WorkingMemory where
  log := m.log.push fact
  present := m.present.insert fact

/-- The memory with the given assertions made in order. -/
def assertAll (m : WorkingMemory) (facts : List FactId) : WorkingMemory :=
  facts.foldl assert m

/-- The memory in which exactly the given assertions have been made, in order. -/
def ofSequence (facts : List FactId) : WorkingMemory :=
  empty.assertAll facts

/-- The fact has been asserted. -/
def contains (m : WorkingMemory) (fact : FactId) : Bool :=
  m.present.contains fact

/-- The number of assertions. -/
def size (m : WorkingMemory) : Nat :=
  m.log.size

/-- The names of the asserted facts, in order of assertion. -/
def names (m : WorkingMemory) (r : Registry) : List String :=
  m.sequence.map r.displayName

/-! ### The sequence -/

theorem sequence_assertAll (m : WorkingMemory) (facts : List FactId) :
  (m.assertAll facts).sequence = m.sequence ++ facts
  := by
  induction facts generalizing m with
  | nil => simp [assertAll]
  | cons fact facts ih =>
    have := ih (m.assert fact)
    simpa [assertAll, assert, sequence] using this

theorem sequence_ofSequence (facts : List FactId) :
  (ofSequence facts).sequence = facts
  := sequence_assertAll _ _

theorem ofSequence_append (facts more : List FactId) :
  ofSequence (facts ++ more) = (ofSequence facts).assertAll more
  := List.foldl_append

theorem contains_assertAll (m : WorkingMemory) (facts : List FactId) (fact : FactId) :
  (m.assertAll facts).contains fact = true ↔ m.contains fact = true ∨ fact ∈ facts
  := by
  induction facts generalizing m with
  | nil => simp [assertAll]
  | cons first facts ih =>
    have step : (m.assert first).contains fact = true ↔ fact = first ∨ m.contains fact = true := by
      simp [contains, assert, List.mem_insert_iff]
    rw [assertAll, List.foldl_cons, ← assertAll, ih, step, List.mem_cons]
    rw [or_assoc, or_left_comm]

/-- Membership in a memory is membership in the sequence that it was made of. -/
theorem contains_ofSequence (facts : List FactId) (fact : FactId) :
  (ofSequence facts).contains fact = true ↔ fact ∈ facts
  := by
  rw [ofSequence, contains_assertAll]
  simp [contains, empty]

end WorkingMemory

end ForwardChaining
