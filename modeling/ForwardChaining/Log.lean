/-!
# Logs

A log is a sequence that entries are added to at its end and, to bound it, dropped from at its
beginning.  `Log.toList` is the sequence; what the operations do to it is said by the lemmas
that stand beside them.  Older entries are kept in order and newer ones in reverse, so that
neither end has to be searched for.
-/

namespace ForwardChaining

/-- A sequence that grows at its end. -/
structure Log (α : Type) where
  /-- The older entries, oldest first. -/
  older : List α
  /-- The newer entries, latest first. -/
  newer : List α
  /-- The number of entries. -/
  size : Nat
  size_eq : size = older.length + newer.length
  deriving DecidableEq

namespace Log

variable {α : Type}

/-- The entries, oldest first. -/
def toList (l : Log α) : List α :=
  l.older ++ l.newer.reverse

/-- The log without entries. -/
def empty : Log α where
  older := []
  newer := []
  size := 0
  size_eq := rfl

/-- The log of the given entries, oldest first. -/
def ofList (entries : List α) : Log α where
  older := entries
  newer := []
  size := entries.length
  size_eq := rfl

/-- The log with one more entry. -/
def push (l : Log α) (entry : α) : Log α where
  older := l.older
  newer := entry :: l.newer
  size := l.size + 1
  size_eq := by simp [l.size_eq, Nat.add_assoc]

/-- The log with the given entries added in order. -/
def append (l : Log α) (entries : List α) : Log α :=
  entries.foldl push l

/-- The log without its oldest entry. -/
def dropOldest (l : Log α) : Log α :=
  match l with
  | ⟨_ :: older, newer, size, h⟩ => ⟨older, newer, size - 1, by
      simp only [h, List.length_cons]
      omega⟩
  | ⟨[], newer, _, _⟩ => ofList newer.reverse.tail

/-- The log without the latest entries that satisfy `p`, back to one that does not. -/
def dropLatestWhile (p : α → Bool) (l : Log α) : Log α :=
  ofList (l.toList.reverse.dropWhile p).reverse

/-- The oldest entry. -/
def oldest? (l : Log α) : Option α :=
  match l.older with
  | entry :: _ => some entry
  | [] => l.newer.getLast?

/-- The latest entry. -/
def latest? (l : Log α) : Option α :=
  match l.newer with
  | entry :: _ => some entry
  | [] => l.older.getLast?

/-- The latest `count` entries, oldest first. -/
def latest (l : Log α) (count : Nat) : List α :=
  let entries := l.newer.take count
  if entries.length = count then entries.reverse else l.toList.drop (l.size - count)

/-- The entries that were added to `before`. -/
def since (l before : Log α) : List α :=
  l.latest (l.size - before.size)

/-! ### The sequence -/

@[simp] theorem length_toList (l : Log α) : l.toList.length = l.size := by
  simp [toList, l.size_eq]

@[simp] theorem toList_empty : (empty : Log α).toList = [] := rfl

@[simp] theorem toList_ofList (entries : List α) : (ofList entries).toList = entries := by
  simp [toList, ofList]

@[simp] theorem toList_push (l : Log α) (entry : α) :
  (l.push entry).toList = l.toList ++ [entry]
  := by
  simp [toList, push]

@[simp] theorem toList_append (l : Log α) (entries : List α) :
  (l.append entries).toList = l.toList ++ entries
  := by
  induction entries generalizing l with
  | nil => simp [append]
  | cons entry rest ih =>
    have := ih (l.push entry)
    simpa [append] using this

@[simp] theorem toList_dropOldest (l : Log α) : l.dropOldest.toList = l.toList.tail := by
  unfold dropOldest
  split
  · simp [toList]
  · simp only [toList_ofList]
    simp [toList]

@[simp] theorem toList_dropLatestWhile (p : α → Bool) (l : Log α) :
  (l.dropLatestWhile p).toList = (l.toList.reverse.dropWhile p).reverse
  := by
  simp [dropLatestWhile]

theorem oldest?_eq (l : Log α) : l.oldest? = l.toList.head? := by
  unfold oldest? toList
  split <;> simp_all

theorem latest?_eq (l : Log α) : l.latest? = l.toList.getLast? := by
  unfold latest? toList
  split <;> simp_all

theorem latest_eq (l : Log α) (count : Nat) :
  l.latest count = l.toList.drop (l.size - count)
  := by
  unfold latest
  dsimp only
  split
  · rename_i full
    have within : count ≤ l.newer.length := by
      rw [List.length_take] at full
      omega
    have place : l.size - count = l.older.length + (l.newer.length - count) := by
      rw [l.size_eq]
      omega
    rw [place, toList, List.drop_append, List.drop_of_length_le (by omega)]
    simp [List.reverse_take]
  · rfl

theorem since_append (l : Log α) (entries : List α) : (l.append entries).since l = entries := by
  have grown : (l.append entries).size = l.size + entries.length := by
    rw [← length_toList, toList_append, List.length_append, length_toList]
  rw [since, latest_eq, toList_append]
  have : (l.append entries).size - ((l.append entries).size - l.size) = l.toList.length := by
    rw [length_toList]
    omega
  rw [this, List.drop_left]

end Log

end ForwardChaining
