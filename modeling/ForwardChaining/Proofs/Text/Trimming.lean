import Mathlib.Data.List.DropRight
import Mathlib.Data.List.TakeWhile
import ForwardChaining.Text.Basic

/-!
# Trimmed texts

To trim a text is to take the blank characters off both its ends.  Trimming what is trimmed
changes nothing (`trim_trim`), whatever blank characters are put around a trimmed text,
trimming gives the text back (`trim_padded`), and what stands on either side of a character
that is not blank is trimmed on its own (`trim_append_cons`).  A text that begins and ends with
parts that are trimmed is trimmed, whatever stands between (`trim_append_append`).
-/

namespace ForwardChaining.Text

variable {cs lead trail : List Char} {c : Char}

/-! ### Blank ends -/

theorem trimLeft_blank_append (blank : ∀ c ∈ lead, isBlank c = true) (cs : List Char) :
  trimLeft (lead ++ cs) = trimLeft cs
  := List.dropWhile_append_of_pos blank

theorem trimRight_append_blank (blank : ∀ c ∈ trail, isBlank c = true) (cs : List Char) :
  trimRight (cs ++ trail) = trimRight cs
  := by
  rw [trimRight, List.reverse_append, List.dropWhile_append_of_pos, trimRight]
  intro c member
  apply blank c (List.mem_reverse.mp member)

theorem trim_blank_append (blank : ∀ c ∈ lead, isBlank c = true) (cs : List Char) :
  trim (lead ++ cs) = trim cs
  := congrArg trimRight (trimLeft_blank_append blank cs)

theorem trim_append_blank (blank : ∀ c ∈ trail, isBlank c = true) (cs : List Char) :
  trim (cs ++ trail) = trim cs
  := by
  rw [trim, trimLeft, List.dropWhile_append]
  split
  · rename_i gone
    rw [List.isEmpty_iff] at gone
    rw [← List.append_nil trail, List.dropWhile_append_of_pos blank, trim, trimLeft, gone,
      List.dropWhile_nil]
  · apply trimRight_append_blank blank

/-- A text is what is left of it at its end, followed by blank characters. -/
theorem exists_trimRight (cs : List Char) :
  ∃ trail, cs = trimRight cs ++ trail ∧ ∀ c ∈ trail, isBlank c = true
  := by
  use cs.rtakeWhile isBlank
  apply And.intro List.rdropWhile_append_rtakeWhile.symm
  intro c member
  apply List.mem_rtakeWhile_imp member

theorem trim_eq_nil_iff :
  trim cs = [] ↔ ∀ c ∈ cs, isBlank c = true
  := by
  constructor
  · intro gone
    have blank : ∀ c ∈ trimLeft cs, isBlank c = true := List.rdropWhile_eq_nil_iff.mp gone
    intro c member
    rw [← List.takeWhile_append_dropWhile (p := isBlank) (l := cs)] at member
    obtain first | later := List.mem_append.mp member
    · apply List.mem_takeWhile_imp first
    · apply blank c later
  · intro blank
    apply trim_append_blank blank []

/-! ### The two sides of a visible character -/

theorem trimLeft_append_cons (visible : isBlank c = false) (before after : List Char) :
  trimLeft (before ++ c :: after) = trimLeft before ++ c :: after
  := by
  rw [trimLeft, List.dropWhile_append]
  split
  · rename_i gone
    rw [trimLeft, List.isEmpty_iff.mp gone]
    simp [visible]
  · rfl

theorem trimRight_append_cons (visible : isBlank c = false) (before after : List Char) :
  trimRight (before ++ c :: after) = before ++ c :: trimRight after
  := by
  have reversed := trimLeft_append_cons visible after.reverse before.reverse
  rw [trimLeft, trimLeft] at reversed
  simp [trimRight, reversed]

/-- Next to a character that is not blank, a text is trimmed at its outer ends only. -/
theorem trim_append_cons (visible : isBlank c = false) (before after : List Char) :
  trim (before ++ c :: after) = trimLeft before ++ c :: trimRight after
  := by
  rw [trim, trimLeft_append_cons visible, trimRight_append_cons visible]

/-! ### Trimming twice -/

theorem trim_trimRight (cs : List Char) :
  trim (trimRight cs) = trim cs
  := by
  obtain ⟨trail, parts, blank⟩ := exists_trimRight cs
  conv_rhs => rw [parts]
  apply (trim_append_blank blank _).symm

theorem trim_trimLeft (cs : List Char) :
  trim (trimLeft cs) = trim cs
  := congrArg trimRight (List.dropWhile_idempotent isBlank cs)

theorem trim_trim (cs : List Char) :
  trim (trim cs) = trim cs
  := (trim_trimRight (trimLeft cs)).trans (trim_trimLeft cs)

/-- A text is what is left of it when it is trimmed, between blank characters. -/
theorem exists_trim (cs : List Char) :
  ∃ lead trail, cs = lead ++ trim cs ++ trail ∧ (∀ c ∈ lead, isBlank c = true)
    ∧ ∀ c ∈ trail, isBlank c = true
  := by
  obtain ⟨trail, parts, blank⟩ := exists_trimRight (trimLeft cs)
  refine ⟨cs.takeWhile isBlank, trail, ?_, ?_, blank⟩
  · rw [List.append_assoc, trim, ← parts, trimLeft, List.takeWhile_append_dropWhile]
  · intro c member
    apply List.mem_takeWhile_imp member

/-! ### Trimmed texts -/

theorem trimLeft_isSuffix (cs : List Char) :
  trimLeft cs <:+ cs
  := List.dropWhile_suffix isBlank

theorem trim_isInfix (cs : List Char) :
  trim cs <:+: cs
  := (List.rdropWhile_prefix isBlank _).isInfix.trans (trimLeft_isSuffix cs).isInfix

theorem trimLeft_eq_self (trimmed : trim cs = cs) :
  trimLeft cs = cs
  := by
  apply (trimLeft_isSuffix cs).eq_of_length_le
  conv_lhs => rw [← trimmed]
  apply (List.rdropWhile_prefix isBlank _).length_le

/-- Blank characters around a trimmed text are all that trimming takes off. -/
theorem trim_padded (trimmed : trim cs = cs) (blankLead : ∀ c ∈ lead, isBlank c = true)
    (blankTrail : ∀ c ∈ trail, isBlank c = true) :
  trim (lead ++ cs ++ trail) = cs
  := by
  rw [trim_append_blank blankTrail, trim_blank_append blankLead, trimmed]

/-- A trimmed text does not begin with blank characters. -/
theorem eq_nil_of_blank_lead (trimmed : trim (lead ++ cs) = lead ++ cs)
    (blank : ∀ c ∈ lead, isBlank c = true) :
  lead = []
  := by
  have bound := (trim_isInfix cs).length_le
  rw [← trim_blank_append blank, trimmed, List.length_append] at bound
  apply List.eq_nil_of_length_eq_zero
  omega

/-- A trimmed text does not end with blank characters. -/
theorem eq_nil_of_blank_trail (trimmed : trim (cs ++ trail) = cs ++ trail)
    (blank : ∀ c ∈ trail, isBlank c = true) :
  trail = []
  := by
  have bound := (trim_isInfix cs).length_le
  rw [← trim_append_blank blank, trimmed, List.length_append] at bound
  apply List.eq_nil_of_length_eq_zero
  omega

/-- What stands before a blank character of a trimmed text is not blank. -/
theorem trim_before_ne_nil {before after : List Char}
    (trimmed : trim (before ++ c :: after) = before ++ c :: after) (blank : isBlank c = true) :
  trim before ≠ []
  := by
  intro gone
  rw [List.append_cons] at trimmed
  have none := eq_nil_of_blank_lead trimmed (by
    rw [List.forall_mem_append, List.forall_mem_singleton]
    apply And.intro (trim_eq_nil_iff.mp gone) blank)
  simp at none

/-- What stands behind a blank character of a trimmed text is not blank. -/
theorem trim_after_ne_nil {before after : List Char}
    (trimmed : trim (before ++ c :: after) = before ++ c :: after) (blank : isBlank c = true) :
  trim after ≠ []
  := by
  intro gone
  have none := eq_nil_of_blank_trail trimmed (by
    rw [List.forall_mem_cons]
    apply And.intro blank (trim_eq_nil_iff.mp gone))
  cases none

/-- A text is trimmed exactly if it neither begins nor ends with a blank character. -/
theorem trim_eq_self_iff :
  trim cs = cs ↔ (∀ c ∈ cs.head?, isBlank c = false) ∧ ∀ c ∈ cs.getLast?, isBlank c = false
  := by
  constructor
  · intro trimmed
    constructor
    · intro c first
      obtain ⟨rest, rfl⟩ := List.head?_eq_some_iff.mp first
      by_contra blank
      rw [← List.singleton_append] at trimmed
      apply List.cons_ne_nil c []
      apply eq_nil_of_blank_lead trimmed
      simpa using blank
    · intro c last
      obtain ⟨rest, rfl⟩ := List.getLast?_eq_some_iff.mp last
      by_contra blank
      apply List.cons_ne_nil c []
      apply eq_nil_of_blank_trail trimmed
      simpa using blank
  · rintro ⟨first, last⟩
    have left : trimLeft cs = cs := by
      rw [trimLeft, List.dropWhile_eq_self_iff]
      intro inside
      rw [first _ (by simp [List.head?_eq_getElem?, inside])]
      apply Bool.false_ne_true
    rw [trim, left]
    apply List.rdropWhile_eq_self_iff.mpr
    intro nonempty
    rw [last _ (List.getLast_mem_getLast? nonempty)]
    apply Bool.false_ne_true

/-- What begins and ends with trimmed parts that are not empty is trimmed. -/
theorem trim_append_append {first last : List Char} (trimmedFirst : trim first = first)
    (startsWith : first ≠ []) (trimmedLast : trim last = last) (endsWith : last ≠ [])
    (between : List Char) :
  trim (first ++ between ++ last) = first ++ between ++ last
  := by
  rw [trim_eq_self_iff] at trimmedFirst trimmedLast ⊢
  constructor
  · intro c head
    rw [List.append_assoc, List.head?_append_of_ne_nil _ startsWith] at head
    apply trimmedFirst.1 c head
  · intro c tail
    rw [List.getLast?_append_of_ne_nil _ endsWith] at tail
    apply trimmedLast.2 c tail

end ForwardChaining.Text
