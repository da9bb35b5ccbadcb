import Mathlib.Data.List.Infix
import ForwardChaining.Text.Basic
import ForwardChaining.Proofs.Text.Trimming

/-!
# The parts of a text

What each way of splitting a text gives back, in both directions: what is known of the parts
that come out of a text, and which texts come apart into given parts.  The parts always make
up the text, and a part is free of what it was split at.  Names that are joined by a separator
with blank characters around it come apart again (`map_trim_splitOn`), blank characters around the
whole do not show in its pieces (`map_trim_splitOn_trim`), and the lines of a text come apart that were
each ended by a line feed (`lines_flatMap`).
-/

namespace ForwardChaining.Text

variable {p : Char → Bool} {c separator : Char} {cs before after piece : List Char}

/-! ### The first and the last character with a property -/

theorem splitFirst?_append_cons (without : ∀ c ∈ before, p c = false) (has : p c = true)
    (after : List Char) :
  splitFirst? p (before ++ c :: after) = some (before, after)
  := by
  induction before with
  | nil => simp [splitFirst?, has]
  | cons d rest ih =>
    rw [List.forall_mem_cons] at without
    simp [splitFirst?, without.1, ih without.2]

theorem parts_of_splitFirst? (split : splitFirst? p cs = some (before, after)) :
  ∃ c, cs = before ++ c :: after ∧ p c = true ∧ ∀ c ∈ before, p c = false
  := by
  induction cs generalizing before with
  | nil => cases split
  | cons d rest ih =>
    rw [splitFirst?] at split
    split at split
    · rename_i has
      cases split
      use d, rfl, has
      apply List.forall_mem_nil
    · rename_i without
      obtain ⟨⟨before, after⟩, later, same⟩ := Option.map_eq_some_iff.mp split
      cases same
      obtain ⟨c, rfl, has, free⟩ := ih later
      use c, rfl, has
      rw [List.forall_mem_cons]
      apply And.intro (Bool.eq_false_iff.mpr without) free

theorem splitLast?_eq_none (without : ∀ c ∈ cs, p c = false) :
  splitLast? p cs = none
  := by
  induction cs with
  | nil => rfl
  | cons c rest ih =>
    rw [List.forall_mem_cons] at without
    simp [splitLast?, without.1, ih without.2]

theorem splitLast?_append_cons (has : p c = true) (without : ∀ c ∈ after, p c = false)
    (before : List Char) :
  splitLast? p (before ++ c :: after) = some (before, after)
  := by
  induction before with
  | nil => simp [splitLast?, has, splitLast?_eq_none without]
  | cons d rest ih => simp [splitLast?, ih]

theorem parts_of_splitLast? (split : splitLast? p cs = some (before, after)) :
  ∃ c, cs = before ++ c :: after ∧ p c = true
  := by
  induction cs generalizing before with
  | nil => cases split
  | cons d rest ih =>
    rw [splitLast?] at split
    split at split
    · rename_i later
      cases split
      obtain ⟨c, rfl, has⟩ := ih later
      use c, rfl
    · split at split
      · rename_i has
        cases split
        use d, rfl
      · cases split

/-! ### Separators -/

theorem splitOn_eq_splitOn (separator : Char) (cs : List Char) :
  splitOn separator cs = cs.splitOn separator
  := by
  induction cs with
  | nil => rfl
  | cons c rest ih =>
    rw [splitOn, List.splitOn_cons_eq_if_modifyHead, ih]
    cases pieces : rest.splitOn separator with
    | nil => apply absurd pieces (List.splitOn_ne_nil separator rest)
    | cons piece others => simp

/-- A piece between separators is a part of the text, without a separator. -/
theorem parts_of_mem_splitOn {cs : List Char} (member : piece ∈ splitOn separator cs) :
  piece <:+: cs ∧ separator ∉ piece
  := by
  by_cases present : separator ∈ cs
  · obtain ⟨before, after, parts, free⟩ := List.eq_append_cons_of_mem present
    rw [parts, splitOn_eq_splitOn, List.splitOn_append_cons_self_of_not_mem free,
      ← splitOn_eq_splitOn] at member
    obtain rfl | later := List.mem_cons.mp member
    · rw [parts]
      apply And.intro (List.prefix_append piece _).isInfix free
    · have shorter : after.length < cs.length := by
        rw [parts, List.length_append, List.length_cons]
        omega
      have ih := parts_of_mem_splitOn later
      have end_of_text : after <:+ cs := by
        rw [parts]
        apply (List.suffix_cons separator after).trans (List.suffix_append before _)
      apply And.intro (ih.1.trans end_of_text.isInfix) ih.2
  · rw [splitOn_eq_splitOn, List.splitOn_eq_singleton present, List.mem_singleton] at member
    rw [member]
    apply And.intro (List.infix_refl cs) present
termination_by cs.length

theorem not_mem_of_blank (visible : isBlank separator = false) (blank : ∀ c ∈ cs, isBlank c = true) :
  separator ∉ cs
  := by
  intro member
  rw [blank separator member] at visible
  cases visible

/-- Names come apart that were joined by a separator with blank characters around it. -/
theorem map_trim_splitOn {lead left right : List Char} {names : List (List Char)}
    (some : names ≠ []) (trimmed : ∀ name ∈ names, trim name = name)
    (free : ∀ name ∈ names, separator ∉ name)
    (blankLead : ∀ c ∈ lead, isBlank c = true) (blankLeft : ∀ c ∈ left, isBlank c = true)
    (blankRight : ∀ c ∈ right, isBlank c = true) (visible : isBlank separator = false) :
  (splitOn separator (lead ++ (left ++ separator :: right).intercalate names)).map trim = names
  := by
  rw [splitOn_eq_splitOn]
  -- `lead` is what a separator leaves before the next name
  induction names generalizing lead with
  | nil => contradiction
  | cons name rest ih =>
    rw [List.forall_mem_cons] at trimmed free
    have freeName : separator ∉ lead ++ name := by
      rw [List.mem_append, not_or]
      apply And.intro (not_mem_of_blank visible blankLead) free.1
    cases rest with
    | nil =>
      rw [List.intercalate_singleton, List.splitOn_eq_singleton freeName, List.map_singleton,
        trim_blank_append blankLead, trimmed.1]
    | cons next rest =>
      have freeFirst : separator ∉ lead ++ name ++ left := by
        rw [List.mem_append, not_or]
        apply And.intro freeName (not_mem_of_blank visible blankLeft)
      have parts : lead ++ (left ++ separator :: right).intercalate (name :: next :: rest)
          = (lead ++ name ++ left) ++ separator ::
            (right ++ (left ++ separator :: right).intercalate (next :: rest)) := by
        simp [List.intercalate_cons_cons]
      rw [parts, List.splitOn_append_cons_self_of_not_mem freeFirst, List.map_cons,
        trim_padded trimmed.1 blankLead blankLeft,
        ih (List.cons_ne_nil _ _) trimmed.2 free.2 blankRight]

/-- Blank characters around a text do not show in its trimmed pieces. -/
theorem map_trim_splitOn_padded {lead : List Char} (visible : isBlank separator = false)
    (blankLead : ∀ c ∈ lead, isBlank c = true) (blankTrail : ∀ c ∈ trail, isBlank c = true)
    (cs : List Char) :
  (splitOn separator (lead ++ cs ++ trail)).map trim = (splitOn separator cs).map trim
  := by
  have freeLead := not_mem_of_blank visible blankLead
  have freeTrail := not_mem_of_blank visible blankTrail
  by_cases present : separator ∈ cs
  · obtain ⟨before, after, parts, free⟩ := List.eq_append_cons_of_mem present
    have shorter : after.length < cs.length := by
      rw [parts, List.length_append, List.length_cons]
      omega
    have padded : lead ++ cs ++ trail = (lead ++ before) ++ separator :: ([] ++ after ++ trail) := by
      simp [parts]
    have free' : separator ∉ lead ++ before := by
      rw [List.mem_append, not_or]
      apply And.intro freeLead free
    have rest := map_trim_splitOn_padded visible (List.forall_mem_nil _) blankTrail after
    rw [splitOn_eq_splitOn, splitOn_eq_splitOn] at rest
    rw [splitOn_eq_splitOn, splitOn_eq_splitOn, padded, parts,
      List.splitOn_append_cons_self_of_not_mem free', List.splitOn_append_cons_self_of_not_mem free,
      List.map_cons, List.map_cons, trim_blank_append blankLead, rest]
  · have absent : separator ∉ lead ++ cs ++ trail := by
      simp [freeLead, freeTrail, present]
    rw [splitOn_eq_splitOn, splitOn_eq_splitOn, List.splitOn_eq_singleton absent,
      List.splitOn_eq_singleton present, List.map_singleton, List.map_singleton,
      trim_append_blank blankTrail, trim_blank_append blankLead]
termination_by cs.length

theorem map_trim_splitOn_trim (visible : isBlank separator = false) (cs : List Char) :
  (splitOn separator (trim cs)).map trim = (splitOn separator cs).map trim
  := by
  obtain ⟨lead, trail, parts, blankLead, blankTrail⟩ := exists_trim cs
  conv_rhs => rw [parts]
  apply (map_trim_splitOn_padded visible blankLead blankTrail _).symm

/-! ### Arrows -/

/-- What separates the conditions of a rule from its conclusions. -/
abbrev arrow : List Char :=
  ['-', '>']

theorem splitArrow?_cons (other : ¬ arrow <+: c :: cs) :
  splitArrow? (c :: cs) = (splitArrow? cs).map fun (before, after) => (c :: before, after)
  := by
  rw [splitArrow?]
  rintro rest rfl rfl
  apply other (List.prefix_append arrow rest)

/-- A text comes apart at the first arrow. -/
theorem splitArrow?_append (free : ¬ arrow <:+: before) (after : List Char) :
  splitArrow? (before ++ '-' :: '>' :: after) = some (before, after)
  := by
  induction before with
  | nil => rfl
  | cons c rest ih =>
    rw [List.infix_cons_iff, not_or] at free
    rw [List.cons_append, splitArrow?_cons, ih free.2, Option.map_some]
    cases rest with
    | nil => simp
    | cons d rest =>
      intro start
      apply free.1
      simpa using start

theorem parts_of_splitArrow? (split : splitArrow? cs = some (before, after)) :
  cs = before ++ '-' :: '>' :: after ∧ ¬ arrow <:+: before
  := by
  induction cs generalizing before with
  | nil => cases split
  | cons c rest ih =>
    by_cases start : arrow <+: c :: rest
    · obtain ⟨after, parts⟩ := start
      cases parts
      cases split
      simp
    · rw [splitArrow?_cons start] at split
      obtain ⟨⟨before, after⟩, later, same⟩ := Option.map_eq_some_iff.mp split
      cases same
      obtain ⟨rfl, free⟩ := ih later
      apply And.intro rfl
      rw [List.infix_cons_iff, not_or]
      apply And.intro _ free
      intro early
      apply start (early.trans (List.prefix_append _ _))

theorem not_arrow_infix_cons (apart : c ∉ arrow) (free : ¬ arrow <:+: cs) :
  ¬ arrow <:+: c :: cs
  := by
  rw [List.infix_cons_iff, not_or]
  apply And.intro _ free
  intro start
  obtain ⟨first, -⟩ := List.cons_prefix_cons.mp start
  apply apart
  rw [← first]
  apply List.mem_cons_self

/-- No arrow lies across a character that is not part of an arrow. -/
theorem not_arrow_infix_append_cons (apart : c ∉ arrow) (freeBefore : ¬ arrow <:+: before)
    (freeAfter : ¬ arrow <:+: after) :
  ¬ arrow <:+: before ++ c :: after
  := by
  induction before with
  | nil => apply not_arrow_infix_cons apart freeAfter
  | cons d rest ih =>
    rw [List.infix_cons_iff, not_or] at freeBefore
    rw [List.cons_append, List.infix_cons_iff, not_or]
    apply And.intro _ (ih freeBefore.2)
    intro start
    cases rest with
    | nil =>
      obtain ⟨-, later⟩ := List.cons_prefix_cons.mp start
      obtain ⟨second, -⟩ := List.cons_prefix_cons.mp later
      apply apart
      rw [← second]
      apply List.mem_cons_of_mem _ List.mem_cons_self
    | cons e rest =>
      apply freeBefore.1
      simpa using start

/-! ### Lines -/

/-- The lines of a text have no line feed. -/
theorem newline_not_mem_lines (cs : List Char) :
  ∀ line ∈ lines cs, '\n' ∉ line
  := by
  fun_induction lines cs with
  | case1 => apply List.forall_mem_nil
  | case2 rest ih | case3 rest ih =>
    rw [List.forall_mem_cons]
    apply And.intro List.not_mem_nil ih
  | case4 c rest single double last ih =>
    rw [List.forall_mem_singleton, List.mem_singleton]
    apply Ne.symm single
  | case5 c rest single double line others more ih =>
    rw [more, List.forall_mem_cons] at ih
    rw [List.forall_mem_cons, List.mem_cons, not_or]
    apply And.intro (And.intro (Ne.symm single) ih.1) ih.2

/-- A line ends at its line feed, if no carriage return stands before that. -/
theorem lines_append_cons (single : '\n' ∉ before) (ending : before.getLast? ≠ some '\r')
    (after : List Char) :
  lines (before ++ '\n' :: after) = before :: lines after
  := by
  induction before with
  | nil => rfl
  | cons c rest ih =>
    rw [List.mem_cons, not_or] at single
    have endingRest : rest.getLast? ≠ some '\r' := by
      intro last
      apply ending
      rw [List.getLast?_cons, last, Option.getD_some]
    rw [List.cons_append, lines, ih single.2 endingRest]
    · apply Ne.symm single.1
    · rintro next rfl feeds
      cases rest with
      | nil => apply ending rfl
      | cons d rest =>
        obtain ⟨rfl, -⟩ := List.cons_eq_cons.mp feeds
        apply single.2 List.mem_cons_self

/-- Lines come apart that were each ended by a line feed. -/
theorem lines_flatMap {texts : List (List Char)} (single : ∀ text ∈ texts, '\n' ∉ text)
    (ending : ∀ text ∈ texts, text.getLast? ≠ some '\r') :
  lines (texts.flatMap (· ++ ['\n'])) = texts
  := by
  induction texts with
  | nil => rfl
  | cons text rest ih =>
    rw [List.forall_mem_cons] at single ending
    rw [List.flatMap_cons, List.append_assoc, List.singleton_append,
      lines_append_cons single.1 ending.1, ih single.2 ending.2]

end ForwardChaining.Text
