import ForwardChaining.Proofs.Completion.Words
import ForwardChaining.Proofs.Text.Trimming

/-!
# Names behind a command

A candidate takes the place of the word at the cursor.  So if part of a name has been typed behind
a command, the line can be turned into the command and the name exactly if no blank character of
the name has been typed, or if the last one is narrow and what follows it of the name is itself a
name (`turns_typed_iff`).
-/

namespace ForwardChaining

variable {line line' before word after typed rest command candidate : String} {position : Nat}

/-! ### Candidates in place of words -/

/-- The text `line'` is `line` with `candidate` in the place of its bytes from `start` to
`position`. -/
def Replaces (line : String) (start position : Nat) (candidate line' : String) : Prop :=
  ∃ before replaced after : String, line = before ++ replaced ++ after
    ∧ start = before.utf8ByteSize ∧ position = (before ++ replaced).utf8ByteSize
    ∧ line' = before ++ candidate ++ after

theorem WordAt.replaces_iff (stands : WordAt line position before word after) :
  Replaces line before.utf8ByteSize position candidate line'
    ↔ line' = before ++ candidate ++ after
  := by
  constructor
  · rintro ⟨before', replaced, after', parts, start, ends, rfl⟩
    rw [stands.parts, String.append_assoc, String.append_assoc] at parts
    obtain ⟨rfl, others⟩ := append_inj_of_utf8ByteSize parts start
    have size : word.utf8ByteSize = replaced.utf8ByteSize := by
      have same := stands.ends.symm.trans ends
      rw [String.utf8ByteSize_append, String.utf8ByteSize_append] at same
      omega
    obtain ⟨-, rfl⟩ := append_inj_of_utf8ByteSize others size
    rfl
  · rintro rfl
    exact ⟨before, word, after, stands.parts, rfl, stands.ends, rfl⟩

namespace Completer

variable {c : Completer}

/-- Some candidate turns `line` into `line'`, in the place of the word that ends at byte
`position`. -/
def Turns (c : Completer) (line : String) (position : Nat) (line' : String) : Prop :=
  ∃ found, c.complete line position = some found
    ∧ ∃ candidate ∈ found.candidates, Replaces line found.start position candidate line'

/-- The rest of a word can be filled in exactly if the word with its rest is on offer. -/
theorem turns_iff_of_wordAt (stands : WordAt line position before word after) :
  c.Turns line position (before ++ (word ++ rest) ++ after)
    ↔ Text.EndsNarrow before ∧ word ++ rest ∈ c.pool before
  := by
  constructor
  · rintro ⟨found, completes, candidate, member, replaces⟩
    by_cases narrow : Text.EndsNarrow before
    · rw [complete_of_narrow stands narrow, Option.some_inj] at completes
      subst completes
      have same := stands.replaces_iff.mp replaces
      rw [String.append_left_inj, String.append_right_inj] at same
      rw [same]
      exact ⟨narrow, List.mem_of_mem_filter member⟩
    · rw [complete_of_wide stands narrow] at completes
      cases completes
  · rintro ⟨narrow, offered⟩
    refine ⟨_, complete_of_narrow stands narrow, word ++ rest, ?_, stands.replaces_iff.mpr rfl⟩
    rw [List.mem_filter]
    apply And.intro offered
    rw [String.toList_append, List.isPrefixOf_iff_prefix]
    apply List.prefix_append

/-! ### Behind a command -/

/-- A word is the same behind a text and a space as on its own. -/
theorem wordAt_behind (behind : Text.WordBehind before word) (lead : String) :
  WordAt (lead ++ " " ++ (before ++ word)) (lead ++ " " ++ (before ++ word)).utf8ByteSize
    (lead ++ " " ++ before) word ""
  := by
  refine ⟨⟨behind.unbroken, ?_⟩, ?_, ?_⟩
  · right
    obtain rfl | ⟨front, blank, rfl, isBlank⟩ := behind.parted
    · exact ⟨lead, ' ', String.append_empty, by decide⟩
    · refine ⟨lead ++ " " ++ front, blank, ?_, isBlank⟩
      simp only [String.push_eq_append, String.append_assoc]
  · simp only [String.append_assoc, String.append_empty]
  · simp only [String.append_assoc]

theorem endsNarrow_behind (lead : String) :
  Text.EndsNarrow (lead ++ " " ++ before) ↔ Text.EndsNarrow before
  := by
  rw [Text.EndsNarrow, Text.EndsNarrow, String.toList_append, List.getLast?_append]
  cases before.toList.getLast? with
  | none =>
    have size : ' '.utf8Size = 1 := by decide
    simp [size]
  | some last => rfl

/-- Behind a command the keywords are offered. -/
theorem pool_behind (spoken : ∃ ch ∈ command.toList, Text.isBlank ch = false) :
  c.pool (command ++ " " ++ before) = c.keywords
  := by
  obtain ⟨ch, member, visible⟩ := spoken
  have said : Text.trim (command ++ " " ++ before).toList ≠ [] := by
    intro gone
    rw [String.append_assoc, String.toList_append] at gone
    have blank := Text.trim_eq_nil_iff.mp gone ch (List.mem_append_left _ member)
    rw [visible] at blank
    cases blank
  rw [pool, if_neg (mt List.isEmpty_iff.mp said)]

theorem turns_behind_iff (behind : Text.WordBehind before word)
    (spoken : ∃ ch ∈ command.toList, Text.isBlank ch = false) :
  c.Turns (command ++ " " ++ (before ++ word)) (command ++ " " ++ (before ++ word)).utf8ByteSize
      (command ++ " " ++ (before ++ word ++ rest))
    ↔ Text.EndsNarrow before ∧ word ++ rest ∈ c.keywords
  := by
  have parts : command ++ " " ++ (before ++ word ++ rest)
      = command ++ " " ++ before ++ (word ++ rest) ++ "" := by
    simp only [String.append_assoc, String.append_empty]
  rw [parts, turns_iff_of_wordAt (wordAt_behind behind command), endsNarrow_behind,
    pool_behind spoken]

/-- Of a name, `typed` stands behind a command.  The rest can be filled in exactly if nothing
blank has been typed of it, or if the last blank character typed is narrow and what follows it of
the name is itself a name. -/
theorem turns_typed_iff (c : Completer) (spoken : ∃ ch ∈ command.toList, Text.isBlank ch = false)
    (known : typed ++ rest ∈ c.keywords) :
  c.Turns (command ++ " " ++ typed) (command ++ " " ++ typed).utf8ByteSize
      (command ++ " " ++ (typed ++ rest))
    ↔ Text.Unbroken typed ∨ ∃ (front : String) (blank : Char) (word : String),
      typed = front.push blank ++ word ∧ Text.isBlank blank = true ∧ blank.utf8Size = 1
        ∧ Text.Unbroken word ∧ word ++ rest ∈ c.keywords
  := by
  constructor
  · intro turns
    obtain ⟨before, word, rfl, behind⟩ := exists_wordBehind typed
    obtain ⟨narrow, offered⟩ := (turns_behind_iff behind spoken).mp turns
    obtain rfl | ⟨front, blank, rfl, isBlank⟩ := behind.parted
    · left
      rw [String.empty_append]
      apply behind.unbroken
    · right
      exact ⟨front, blank, word, rfl, isBlank, Text.endsNarrow_push.mp narrow, behind.unbroken,
        offered⟩
  · rintro (unbroken | ⟨front, blank, word, rfl, isBlank, narrow, unbroken, offered⟩)
    · have behind : Text.WordBehind "" typed := ⟨unbroken, .inl rfl⟩
      rw [← String.empty_append (s := typed)]
      apply (turns_behind_iff behind spoken).mpr
      apply And.intro Text.endsNarrow_empty known
    · have behind : Text.WordBehind (front.push blank) word :=
        ⟨unbroken, .inr ⟨front, blank, rfl, isBlank⟩⟩
      apply (turns_behind_iff behind spoken).mpr
      apply And.intro (Text.endsNarrow_push.mpr narrow) offered

/-- Two names with a blank character in them, of which one ends in another name. -/
def leave : Completer :=
  ⟨["tickets bought", "time off", "off"]⟩

/-- In its first word a name can be completed, and in its second if that is a name too. -/
theorem turns_typed_iff_leave :
  "tick" ++ "ets bought" ∈ leave.keywords ∧ "time o" ++ "ff" ∈ leave.keywords
    ∧ leave.Turns ("why" ++ " " ++ "tick") 8 ("why" ++ " " ++ ("tick" ++ "ets bought"))
    ∧ leave.Turns ("why" ++ " " ++ "time o") 10 ("why" ++ " " ++ ("time o" ++ "ff"))
  := by
  have spoken : ∃ ch ∈ "why".toList, Text.isBlank ch = false := ⟨'w', by decide +kernel⟩
  have tickets : "tick" ++ "ets bought" ∈ leave.keywords := by
    decide +kernel
  have time : "time o" ++ "ff" ∈ leave.keywords := by
    decide +kernel
  refine ⟨tickets, time, ?_, ?_⟩
  · apply (turns_typed_iff leave spoken tickets).mpr
    left
    decide +kernel
  · apply (turns_typed_iff leave spoken time).mpr
    right
    exact ⟨"time", ' ', "o", by decide +kernel⟩

/-- In its second word, which is no name, a name is not completed. -/
theorem not_turns_outing :
  "tickets b" ++ "ought" ∈ outing.keywords
    ∧ ¬outing.Turns ("why" ++ " " ++ "tickets b") 13 ("why" ++ " " ++ ("tickets b" ++ "ought"))
  := by
  apply And.intro (by decide +kernel)
  have empty : outing.complete ("why" ++ " " ++ "tickets b") 13 = some ⟨12, []⟩ := by
    decide +kernel
  rintro ⟨found, completes, candidate, member, -⟩
  rw [empty, Option.some_inj] at completes
  rw [← completes] at member
  cases member

end Completer

end ForwardChaining
