import Mathlib.Data.List.DropRight
import Mathlib.Data.String.Basic
import ForwardChaining.Completion

/-!
# The word at the cursor

At every boundary between characters of a line ends a word, which begins behind the last blank
character or at the beginning of the line (`exists_wordAt`).  That word is completed, if the blank
character takes one byte.  The place one byte after the beginning of a wider one lies within it,
and then there is no completion (`completed_at_boundary`).
-/

namespace ForwardChaining

variable {line before word after front : String} {position : Nat} {blank : Char}

/-! ### Bytes -/

theorem byteSize_toList (s : String) :
  byteSize s.toList = s.utf8ByteSize
  := by
  rw [← String.utf8Len_toList]
  induction s.toList with
  | nil => rfl
  | cons c rest ih => rw [byteSize, String.utf8Len_cons, ih, Nat.add_comm]

theorem splitBytes?_cons {n : Nat} (pos : 0 < n) (c : Char) (rest : List Char) :
  splitBytes? n (c :: rest)
    = if c.utf8Size ≤ n then
        (splitBytes? (n - c.utf8Size) rest).map fun parts => (c :: parts.1, parts.2)
      else none
  := by
  cases n with
  | zero => cases pos
  | succ n => rfl

/-- A text is split behind characters of known size as it would be without them. -/
theorem splitBytes?_byteSize_add (front : List Char) (n : Nat) (cs : List Char) :
  splitBytes? (byteSize front + n) (front ++ cs)
    = (splitBytes? n cs).map fun parts => (front ++ parts.1, parts.2)
  := by
  induction front with
  | nil => simp [byteSize]
  | cons c rest ih =>
    have pos := c.utf8Size_pos
    have fits : c.utf8Size ≤ byteSize (c :: rest) + n := by
      rw [byteSize]
      omega
    have left : byteSize (c :: rest) + n - c.utf8Size = byteSize rest + n := by
      rw [byteSize]
      omega
    rw [List.cons_append, splitBytes?_cons (by omega), if_pos fits, left, ih, Option.map_map]
    rfl

theorem splitBytes?_utf8ByteSize (before after : String) :
  splitBytes? before.utf8ByteSize (before ++ after).toList = some (before.toList, after.toList)
  := by
  have split := splitBytes?_byteSize_add before.toList 0 after.toList
  rw [Nat.add_zero, splitBytes?, Option.map_some, List.append_nil] at split
  rw [String.toList_append, ← byteSize_toList, split]

/-- A text has at most one beginning of a given size. -/
theorem append_inj_of_utf8ByteSize {before' after' : String}
    (same : before ++ after = before' ++ after')
    (size : before.utf8ByteSize = before'.utf8ByteSize) :
  before = before' ∧ after = after'
  := by
  have split := splitBytes?_utf8ByteSize before after
  rw [same, size, splitBytes?_utf8ByteSize, Option.some_inj, Prod.mk.injEq] at split
  exact ⟨(String.toList_inj.mp split.1).symm, (String.toList_inj.mp split.2).symm⟩

/-! ### Words -/

/-- A text without blank characters. -/
def Text.Unbroken (text : String) : Prop :=
  ∀ c ∈ text.toList, isBlank c = false

instance : DecidablePred Text.Unbroken :=
  fun text => List.decidableBAll (Text.isBlank · = false) text.toList

/-- The last character of a text, if there is one, takes one byte. -/
def Text.EndsNarrow (text : String) : Prop :=
  ∀ c ∈ text.toList.getLast?, c.utf8Size = 1

/-- The word `word` begins behind `before`. -/
structure Text.WordBehind (before word : String) : Prop where
  unbroken : Unbroken word
  /-- Nothing stands before it, or a blank character. -/
  parted : before = "" ∨
    ∃ (front : String) (blank : Char), before = front.push blank ∧ isBlank blank = true

/-- The word of `line` that ends at byte `position`, with what stands before and after it. -/
structure WordAt (line : String) (position : Nat) (before word after : String) : Prop
    extends Text.WordBehind before word where
  parts : line = before ++ word ++ after
  ends : position = (before ++ word).utf8ByteSize

theorem Text.endsNarrow_empty : EndsNarrow "" := by
  rintro _ ⟨⟩

theorem Text.endsNarrow_push :
  EndsNarrow (front.push blank) ↔ blank.utf8Size = 1
  := by
  simp [EndsNarrow]

/-- Every text ends in a word, which may be empty. -/
theorem exists_wordBehind (text : String) :
  ∃ before word, text = before ++ word ∧ Text.WordBehind before word
  := by
  let before := text.toList.rdropWhile (!Text.isBlank ·)
  let word := text.toList.rtakeWhile (!Text.isBlank ·)
  refine ⟨.ofList before, .ofList word, ?_, ?_, ?_⟩
  · rw [← String.ofList_append, List.rdropWhile_append_rtakeWhile, String.ofList_toList]
  · intro c member
    rw [String.toList_ofList] at member
    simpa using List.mem_rtakeWhile_imp member
  · obtain none | ⟨front, blank, last⟩ := List.eq_nil_or_concat' before
    · left
      rw [none, String.ofList_nil]
    · right
      refine ⟨.ofList front, blank, ?_, ?_⟩
      · rw [last, String.push_eq_append, String.ofList_append, String.singleton_eq_ofList]
      · have some : before ≠ [] := by simp [last]
        have stops := List.rdropWhile_last_not (!Text.isBlank ·) text.toList some
        simpa [before, last] using stops

/-- A word ends at every boundary. -/
theorem exists_wordAt (boundary : (⟨position⟩ : String.Pos.Raw).IsValid line) :
  ∃ before word after, WordAt line position before word after
  := by
  obtain ⟨head, after, rfl, ends⟩ := String.Pos.Raw.isValid_iff_exists_append.mp boundary
  obtain ⟨before, word, rfl, behind⟩ := exists_wordBehind head
  exact ⟨before, word, after, behind, rfl, congrArg String.Pos.Raw.byteIdx ends⟩

/-! ### The beginning of a word -/

theorem Text.Unbroken.visible_of_mem_reverse (unbroken : Unbroken word) :
  ∀ c ∈ word.toList.reverse, (!isBlank c) = true
  := by
  intro c member
  rw [unbroken c (List.mem_reverse.mp member)]
  rfl

theorem wordStart_of_unbroken (unbroken : Text.Unbroken word) :
  wordStart word.toList = 0
  := by
  have whole : word.toList.reverse.takeWhile (!Text.isBlank ·) = word.toList.reverse :=
    List.takeWhile_eq_self_iff.mpr unbroken.visible_of_mem_reverse
  rw [wordStart, whole, List.reverse_reverse, if_pos rfl]

/-- A word is taken to begin one byte after the beginning of the blank character before it. -/
theorem wordStart_push (isBlank : Text.isBlank blank = true) (unbroken : Text.Unbroken word) :
  wordStart (front.push blank ++ word).toList = front.utf8ByteSize + 1
  := by
  have stops : (front.push blank ++ word).toList.reverse.takeWhile (!Text.isBlank ·)
      = word.toList.reverse := by
    rw [String.toList_append, String.toList_push, List.reverse_append, List.reverse_concat,
      List.takeWhile_append_of_pos unbroken.visible_of_mem_reverse, List.takeWhile_cons, isBlank]
    simp
  have length : (front.push blank ++ word).toList.length
      = front.toList.length + 1 + word.toList.length := by
    rw [String.toList_append, String.toList_push, List.length_append, List.length_append,
      List.length_singleton]
  have left : (front.push blank ++ word).toList.length - word.toList.length - 1
      = front.toList.length := by
    omega
  rw [wordStart, stops, List.reverse_reverse, if_neg (by omega), left, String.toList_append,
    String.toList_push, List.append_assoc, List.take_left, byteSize_toList]

/-! ### Completions -/

namespace Completer

variable {c : Completer}

/-- What is offered for a word that stands behind `before`. -/
def pool (c : Completer) (before : String) : List String :=
  if (Text.trim before.toList).isEmpty then commandWords else c.keywords

/-- A word is completed if the text up to the cursor comes apart where it is taken to begin. -/
theorem complete_of_wordAt (stands : WordAt line position before word after) :
  c.complete line position
    = (splitBytes? (wordStart (before ++ word).toList) (before ++ word).toList).map fun parts =>
        { start := wordStart (before ++ word).toList
          candidates := (c.pool (.ofList parts.1)).filter (parts.2.isPrefixOf ·.toList) }
  := by
  rw [complete, stands.parts, stands.ends, splitBytes?_utf8ByteSize]
  simp only [Option.bind_eq_bind, Option.bind_some, pool, String.toList_ofList]
  cases splitBytes? (wordStart (before ++ word).toList) (before ++ word).toList with
  | none => rfl
  | some parts => rfl

/-- A word behind a narrow blank character is completed. -/
theorem complete_of_narrow (stands : WordAt line position before word after)
    (narrow : Text.EndsNarrow before) :
  c.complete line position
    = some ⟨before.utf8ByteSize, (c.pool before).filter (word.toList.isPrefixOf ·.toList)⟩
  := by
  have start : wordStart (before ++ word).toList = before.utf8ByteSize := by
    obtain rfl | ⟨front, blank, rfl, isBlank⟩ := stands.parted
    · rw [String.empty_append, wordStart_of_unbroken stands.unbroken, String.utf8ByteSize_empty]
    · rw [wordStart_push isBlank stands.unbroken, String.utf8ByteSize_push,
        Text.endsNarrow_push.mp narrow]
  rw [complete_of_wordAt stands, start, splitBytes?_utf8ByteSize, Option.map_some,
    String.ofList_toList]

/-- A word behind a wide blank character is taken to begin within that character. -/
theorem complete_of_wide (stands : WordAt line position before word after)
    (wide : ¬Text.EndsNarrow before) :
  c.complete line position = none
  := by
  obtain rfl | ⟨front, blank, rfl, isBlank⟩ := stands.parted
  · exact absurd Text.endsNarrow_empty wide
  · rw [Text.endsNarrow_push] at wide
    have within : ¬blank.utf8Size ≤ 1 := by
      have pos := blank.utf8Size_pos
      omega
    have split := splitBytes?_byteSize_add front.toList 1 (blank :: word.toList)
    rw [splitBytes?_cons Nat.one_pos, if_neg within, Option.map_none, byteSize_toList,
      List.append_cons, ← String.toList_push, ← String.toList_append] at split
    rw [complete_of_wordAt stands, wordStart_push isBlank stands.unbroken, split, Option.map_none]

/-- What is found for a word: where it begins, and everything on offer that begins with it. -/
structure Finds (c : Completer) (line : String) (position : Nat) (before word : String)
    (found : Completion) : Prop where
  start_eq : found.start = before.utf8ByteSize
  boundary : (⟨found.start⟩ : String.Pos.Raw).IsValid line
  start_le : found.start ≤ position
  candidates_eq : found.candidates = (c.pool before).filter (word.toList <+: ·.toList)

theorem finds_of_wordAt (stands : WordAt line position before word after) :
  c.Finds line position before word
    ⟨before.utf8ByteSize, (c.pool before).filter (word.toList.isPrefixOf ·.toList)⟩
  where
  start_eq := rfl
  boundary := by
    rw [String.Pos.Raw.isValid_iff_exists_append, stands.parts]
    exact ⟨before, word ++ after, String.append_assoc, rfl⟩
  start_le := by
    rw [stands.ends, String.utf8ByteSize_append]
    apply Nat.le_add_right
  candidates_eq := by
    simp [← List.isPrefixOf_iff_prefix]

/-- At every boundary of a line there is a word to complete.  It is completed exactly if the blank
character before it, if there is one, takes one byte. -/
theorem completed_at_boundary (c : Completer)
    (boundary : (⟨position⟩ : String.Pos.Raw).IsValid line) :
  ∃ before word after, WordAt line position before word after
    ∧ ((∃ found, c.complete line position = some found) ↔ Text.EndsNarrow before)
    ∧ ∀ found, c.complete line position = some found → c.Finds line position before word found
  := by
  obtain ⟨before, word, after, stands⟩ := exists_wordAt boundary
  use before, word, after, stands
  by_cases narrow : Text.EndsNarrow before
  · rw [complete_of_narrow stands narrow]
    refine ⟨iff_of_true ⟨_, rfl⟩ narrow, ?_⟩
    rintro _ ⟨⟩
    apply finds_of_wordAt stands
  · rw [complete_of_wide stands narrow]
    refine ⟨iff_of_false ?_ narrow, ?_⟩
    · rintro ⟨_, ⟨⟩⟩
    · rintro _ ⟨⟩

/-- Two names with a blank character in them, and one without. -/
def outing : Completer :=
  ⟨["tickets bought", "time off", "money"]⟩

/-- Behind a wide blank character and a narrow one, a word is completed. -/
theorem completed_at_boundary_outing :
  (⟨9⟩ : String.Pos.Raw).IsValid "why\u3000 time"
    ∧ ∃ before word after, WordAt "why\u3000 time" 9 before word after ∧ Text.EndsNarrow before
      ∧ outing.Finds "why\u3000 time" 9 before word ⟨7, ["tickets bought", "time off"]⟩
  := by
  have boundary : (⟨9⟩ : String.Pos.Raw).IsValid "why\u3000 time" := by
    decide +kernel
  have completes : outing.complete "why\u3000 time" 9
      = some ⟨7, ["tickets bought", "time off"]⟩ := by
    decide +kernel
  obtain ⟨before, word, after, stands, returns, finds⟩ := completed_at_boundary outing boundary
  exact ⟨boundary, before, word, after, stands, returns.mp ⟨_, completes⟩, finds _ completes⟩

/-- Behind a wide blank character alone there is no completion. -/
theorem not_completed_outing :
  (⟨8⟩ : String.Pos.Raw).IsValid "why\u3000ti" ∧ outing.complete "why\u3000ti" 8 = none
  := by
  decide +kernel

end Completer

end ForwardChaining
