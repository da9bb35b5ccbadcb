import ForwardChaining.Proofs.Json.Unambiguity

/-!
# Characters of JSON texts

The only control characters of a JSON text are those that may stand between tokens
(`Json.Denotes.isAllowed`): within a string a control character must be escaped.
-/

namespace ForwardChaining

namespace Json

variable {c : Char} {l m t : List Char} {p : Phrase}

/-- The character may stand in a text. -/
def IsAllowed (c : Char) : Prop :=
  ' ' ≤ c ∨ isSpace c = true

instance : Decidable (IsAllowed c) :=
  inferInstanceAs (Decidable (_ ∨ _))

/-- Between `l` and what is left of it, `t`, there are characters of texts. -/
def Passes (l t : List Char) : Prop :=
  ∀ c ∈ l, IsAllowed c ∨ c ∈ t

namespace Passes

theorem trans (first : Passes l m) (second : Passes m t) :
  Passes l t
  := by
  intro c member
  obtain allowed | member := first c member
  · exact Or.inl allowed
  · exact second c member

theorem append {k : List Char} (allowed : ∀ c ∈ k, IsAllowed c) (rest : Passes l t) :
  Passes (k ++ l) t
  := by
  intro c member
  obtain member | member := List.mem_append.mp member
  · exact Or.inl (allowed c member)
  · exact rest c member

theorem cons (allowed : IsAllowed c) (rest : Passes l t) :
  Passes (c :: l) t
  := append (List.forall_mem_singleton.mpr allowed) rest

theorem refl (t : List Char) :
  Passes t t
  := fun _ member => Or.inr member

end Passes

/-! ### Numerals and strings -/

theorem IsAllowed.of_lt (visible : ' ' < c) :
  IsAllowed c
  := Or.inl (Nat.le_of_lt visible)

theorem isAllowed_of_isPart (part : Numeral.IsPart c) :
  IsAllowed c
  := by
  obtain digit | member := part
  · exact .of_lt (Numeral.lt_of_isDigit digit)
  · have all : ∀ c ∈ ['-', '+', '.', 'e', 'E'], IsAllowed c := by simp [IsAllowed]
    exact all c member

theorem isAllowed_of_escaped? {e : Char} (means : escaped? e = some c) :
  IsAllowed e
  := by
  unfold escaped? at means
  split at means
  all_goals first
    | decide
    | cases means

theorem isAllowed_of_hexDigit? {n : Nat} (means : hexDigit? c = some n) :
  IsAllowed c
  := by
  unfold hexDigit? at means
  split at means
  · rename_i range
    exact Or.inl (Char.le_trans (by decide) range.1)
  · split at means
    · rename_i range
      exact Or.inl (Char.le_trans (by decide) range.1)
    · split at means
      · rename_i range
        exact Or.inl (Char.le_trans (by decide) range.1)
      · cases means

theorem isAllowed_of_codeUnit? {a b c d : Char} {n : Nat} (means : codeUnit? a b c d = some n) :
  ∀ e ∈ [a, b, c, d], IsAllowed e
  := by
  unfold codeUnit? at means
  simp only [Option.bind_eq_bind, Option.bind_eq_some_iff] at means
  obtain ⟨_, first, _, second, _, third, _, fourth, -⟩ := means
  simp only [List.forall_mem_cons, List.not_mem_nil, false_implies, implies_true, and_true]
  exact ⟨isAllowed_of_hexDigit? first, isAllowed_of_hexDigit? second, isAllowed_of_hexDigit? third,
    isAllowed_of_hexDigit? fourth⟩

theorem ReadsText.passes {s : List Char} (reads : ReadsText l s t) :
  Passes l t
  := by
  induction reads with
  | close => exact .cons (by decide) (.refl _)
  | plain visible unquoted unescaped rest ih => exact .cons (Or.inl visible) ih
  | escape means rest ih => exact .cons (by decide) (.cons (isAllowed_of_escaped? means) ih)
  | unit means single rest ih =>
    exact .cons (by decide) (.cons (by decide) (.append (isAllowed_of_codeUnit? means) ih))
  | pair first second isHigh isLow rest ih =>
    apply Passes.cons (by decide)
    apply Passes.cons (by decide)
    apply Passes.append (isAllowed_of_codeUnit? first)
    apply Passes.cons (by decide)
    apply Passes.cons (by decide)
    exact .append (isAllowed_of_codeUnit? second) ih

/-! ### Texts -/

theorem Reads.passes (reads : Reads l p t) (proper : p.IsProper) :
  Passes l t
  := by
  have close : ' ' < ']' := by decide
  have comma : ' ' < ',' := by decide
  have colon : ' ' < ':' := by decide
  have brace : ' ' < '\x7d' := by decide
  induction reads with
  | space between rest ih => exact .cons (Or.inr between) (ih proper)
  | literalNull => exact .append (k := ['n', 'u', 'l', 'l']) (by simp [IsAllowed]) (.refl _)
  | literalTrue => exact .append (k := ['t', 'r', 'u', 'e']) (by simp [IsAllowed]) (.refl _)
  | literalFalse =>
    exact .append (k := ['f', 'a', 'l', 's', 'e']) (by simp [IsAllowed]) (.refl _)
  | number n written ends =>
    rw [written]
    apply Passes.append _ (.refl _)
    intro c member
    exact isAllowed_of_isPart (Numeral.isPart_of_mem_text member)
  | string text => exact .cons (by decide) text.passes
  | emptyArray _ closes => exact .cons (by decide) (closes close)
  | array _ items => exact .cons (by decide) (items trivial)
  | emptyObject _ closes => exact .cons (by decide) (closes brace)
  | object _ members => exact .cons (by decide) (members trivial)
  | mark => exact .cons (.of_lt proper) (.refl _)
  | lastItem _ _ item closes => exact (item trivial).trans (closes close)
  | nextItem _ _ _ item commas rest =>
    exact ((item trivial).trans (commas comma)).trans (rest trivial)
  | key text => exact .cons (by decide) text.passes
  | lastMember _ _ _ _ key colons value closes =>
    exact (((key trivial).trans (colons colon)).trans (value trivial)).trans (closes brace)
  | nextMember _ _ _ _ _ key colons value commas rest =>
    exact ((((key trivial).trans (colons colon)).trans (value trivial)).trans (commas comma)).trans
      (rest trivial)

/-- The control characters of a text may stand between tokens. -/
theorem Denotes.isAllowed {text : String} {v : Json} (denotes : Denotes text v) :
  ∀ c ∈ text.toList, IsAllowed c
  := by
  obtain ⟨t, reads, spaces⟩ := denotes
  intro c member
  obtain allowed | member := reads.passes trivial c member
  · exact allowed
  · exact Or.inr (spaces c member)

end Json

end ForwardChaining
