import Mathlib.Data.List.Forall2

/-!
# Lists that go together

Two lists go together by a relation if they are as long as each other and the entries at each place
are related.  What is asked of such lists has the same answer for both, if it has the same answer
for related entries.
-/

namespace ForwardChaining

variable {α β γ : Type} {R : α → β → Prop} {l : List α} {m : List β}

/-- What stands in the first of two lists that go together has its match in the second. -/
theorem exists_of_mem_left {a : α} (together : List.Forall₂ R l m) (member : a ∈ l) :
  ∃ b ∈ m, R a b
  := by
  induction together with
  | nil => cases member
  | cons first _ ih =>
    obtain rfl | member := List.mem_cons.mp member
    · exact ⟨_, List.mem_cons_self, first⟩
    · obtain ⟨b, there, related⟩ := ih member
      exact ⟨b, List.mem_cons_of_mem _ there, related⟩

/-- What stands in the second of two lists that go together has its match in the first. -/
theorem exists_of_mem_right {b : β} (together : List.Forall₂ R l m) (member : b ∈ m) :
  ∃ a ∈ l, R a b
  := by
  apply exists_of_mem_left (R := fun b a => R a b) together.flip member

/-- If each entry of a list has a match, there is a list of matches. -/
theorem exists_together (matched : ∀ a ∈ l, ∃ b, R a b) :
  ∃ m, List.Forall₂ R l m
  := by
  induction l with
  | nil => exact ⟨[], .nil⟩
  | cons a l ih =>
    rw [List.forall_mem_cons] at matched
    obtain ⟨⟨b, first⟩, rest⟩ := matched
    obtain ⟨m, together⟩ := ih rest
    exact ⟨b :: m, .cons first together⟩

theorem getElem?_cases_of_together (together : List.Forall₂ R l m) (i : Nat) :
  (l[i]? = none ∧ m[i]? = none) ∨ ∃ a b, l[i]? = some a ∧ m[i]? = some b ∧ R a b
  := by
  induction together generalizing i with
  | nil => exact .inl ⟨rfl, rfl⟩
  | cons first _ ih =>
    cases i with
    | zero => exact .inr ⟨_, _, rfl, rfl, first⟩
    | succ i =>
      rw [List.getElem?_cons_succ, List.getElem?_cons_succ]
      apply ih

/-- What stands at a place of the first of two lists that go together has its match at the same
place of the second. -/
theorem exists_getElem?_of_left {a : α} {i : Nat} (together : List.Forall₂ R l m)
    (found : l[i]? = some a) :
  ∃ b, m[i]? = some b ∧ R a b
  := by
  obtain ⟨none, -⟩ | ⟨a', b, found', there, related⟩ := getElem?_cases_of_together together i
  · rw [none] at found
    cases found
  · rw [found'] at found
    cases found
    exact ⟨b, there, related⟩

/-- Lists that go together with the same list go together with each other. -/
theorem together_of_common {S : α → γ → Prop} {Q : β → γ → Prop} {n : List γ}
    (together : List.Forall₂ R l m) (together' : List.Forall₂ S l n)
    (related : ∀ a b c, R a b → S a c → Q b c) :
  List.Forall₂ Q m n
  := by
  induction together generalizing n with
  | nil =>
    cases together'
    exact .nil
  | cons first _ ih =>
    cases together' with
    | cons first' rest' => exact .cons (related _ _ _ first first') (ih rest')

theorem map_eq_of_together {f : α → γ} {g : β → γ} (together : List.Forall₂ R l m)
    (same : ∀ a b, R a b → f a = g b) :
  l.map f = m.map g
  := by
  induction together with
  | nil => rfl
  | cons first _ ih => rw [List.map_cons, List.map_cons, same _ _ first, ih]

theorem all_eq_of_together {p : α → Bool} {q : β → Bool} (together : List.Forall₂ R l m)
    (same : ∀ a b, R a b → p a = q b) :
  l.all p = m.all q
  := by
  induction together with
  | nil => rfl
  | cons first _ ih => rw [List.all_cons, List.all_cons, same _ _ first, ih]

theorem flatMap_eq_of_together {f : α → List γ} {g : β → List γ} (together : List.Forall₂ R l m)
    (same : ∀ a b, R a b → f a = g b) :
  l.flatMap f = m.flatMap g
  := by
  rw [List.flatMap_def, List.flatMap_def, map_eq_of_together together same]

theorem isEmpty_eq_of_together (together : List.Forall₂ R l m) :
  l.isEmpty = m.isEmpty
  := by
  cases together <;> rfl

theorem find?_cases_of_together {p : α → Bool} {q : β → Bool} (together : List.Forall₂ R l m)
    (same : ∀ a b, R a b → p a = q b) :
  (l.find? p = none ∧ m.find? q = none)
    ∨ ∃ a b, l.find? p = some a ∧ m.find? q = some b ∧ R a b
  := by
  induction together with
  | nil => exact .inl ⟨rfl, rfl⟩
  | cons first _ ih =>
    rw [List.find?_cons, List.find?_cons, same _ _ first]
    split
    · exact .inr ⟨_, _, rfl, rfl, first⟩
    · exact ih

theorem findIdx?_eq_of_together {p : α → Bool} {q : β → Bool} (together : List.Forall₂ R l m)
    (same : ∀ a b, R a b → p a = q b) :
  l.findIdx? p = m.findIdx? q
  := by
  induction together with
  | nil => rfl
  | cons first _ ih => rw [List.findIdx?_cons, List.findIdx?_cons, same _ _ first, ih]

theorem dropWhile_of_together {p : α → Bool} {q : β → Bool} (together : List.Forall₂ R l m)
    (same : ∀ a b, R a b → p a = q b) :
  List.Forall₂ R (l.dropWhile p) (m.dropWhile q)
  := by
  induction together with
  | nil => exact .nil
  | cons first rest ih =>
    rw [List.dropWhile_cons, List.dropWhile_cons, same _ _ first]
    split
    · exact ih
    · exact .cons first rest

theorem zipIdx_of_together (together : List.Forall₂ R l m) (i : Nat) :
  List.Forall₂ (fun a b => R a.1 b.1 ∧ a.2 = b.2) (l.zipIdx i) (m.zipIdx i)
  := by
  induction together generalizing i with
  | nil => exact .nil
  | cons first _ ih => exact .cons ⟨first, rfl⟩ (ih (i + 1))

theorem mapM_eq_of_together {ε : Type} {f : α → Except ε γ} {g : β → Except ε γ}
    (together : List.Forall₂ R l m) (same : ∀ a b, R a b → f a = g b) :
  l.mapM f = m.mapM g
  := by
  induction together with
  | nil => rfl
  | cons first _ ih => rw [List.mapM_cons, List.mapM_cons, same _ _ first, ih]

end ForwardChaining
