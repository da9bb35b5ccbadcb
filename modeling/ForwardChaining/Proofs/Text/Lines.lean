import Mathlib.Logic.Relation
import ForwardChaining.Proofs.Text.Splitting

/-!
# Lines and statements

The lines of a text that ends in a line feed are followed by those of what is appended to the text
(`lines_append`).  The statements of a text are its lines without the blank characters around them,
but for those lines that are blank or begin with `#`.  They are all that is left to tell texts apart
by if one is edited without touching what it says (`statements_eq_of_edits`): if idle lines are added,
lines are padded, or line ends are written in the other way.
-/

namespace ForwardChaining.Text

variable {cs ds line pad after : List Char}

/-! ### One line at a time -/

/-- What holds of texts of one line, and of a text if it holds of what follows its first line feed,
holds of all texts. -/
theorem line_induction {P : List Char → Prop} (single : ∀ cs, '\n' ∉ cs → P cs)
    (more : ∀ cs rest, '\n' ∉ cs → P rest → P (cs ++ '\n' :: rest)) (cs : List Char) :
  P cs
  := by
  by_cases feeds : '\n' ∈ cs
  · obtain ⟨first, rest, parts, free⟩ := List.eq_append_cons_of_mem feeds
    have shorter : rest.length < cs.length := by
      rw [parts, List.length_append, List.length_cons]
      omega
    rw [parts]
    exact more first rest free (line_induction single more rest)
  · exact single cs feeds
termination_by cs.length

theorem lines_of_single (single : '\n' ∉ cs) :
  lines cs = if cs = [] then [] else [cs]
  := by
  induction cs with
  | nil => rfl
  | cons c rest ih =>
    rw [List.mem_cons, not_or] at single
    rw [lines, ih single.2, if_neg (List.cons_ne_nil c rest)]
    · cases rest with
      | nil => rfl
      | cons d rest => rfl
    · exact Ne.symm single.1
    · rintro rest' - rfl
      exact single.2 List.mem_cons_self

/-- A carriage return before a line feed belongs to the end of the line. -/
theorem lines_append_return (single : '\n' ∉ cs) (rest : List Char) :
  lines (cs ++ '\r' :: '\n' :: rest) = cs :: lines rest
  := by
  induction cs with
  | nil => rfl
  | cons c cs ih =>
    rw [List.mem_cons, not_or] at single
    rw [List.cons_append, lines, ih single.2]
    · exact Ne.symm single.1
    · rintro next - feeds
      cases cs with
      | nil =>
        obtain ⟨impossible, -⟩ := List.cons_eq_cons.mp feeds
        cases impossible
      | cons d cs =>
        obtain ⟨rfl, -⟩ := List.cons_eq_cons.mp feeds
        exact single.2 List.mem_cons_self

/-- What a line feed ends is a line, which may have been followed by a carriage return. -/
theorem exists_line (single : '\n' ∉ cs) :
  ∃ line, (cs = line ∨ cs = line ++ ['\r'])
    ∧ ∀ rest, lines (cs ++ '\n' :: rest) = line :: lines rest
  := by
  by_cases ending : cs.getLast? = some '\r'
  · obtain ⟨line, rfl⟩ := List.getLast?_eq_some_iff.mp ending
    rw [List.mem_append, not_or] at single
    use line, Or.inr rfl
    intro rest
    rw [List.append_assoc]
    exact lines_append_return single.1 rest
  · use cs, Or.inl rfl
    exact lines_append_cons single ending

/-- The text is empty or ends in a line feed. -/
def Whole (cs : List Char) : Prop :=
  cs = [] ∨ cs.getLast? = some '\n'

instance : DecidablePred Whole :=
  fun _ => inferInstanceAs (Decidable (_ ∨ _))

theorem whole_of_append_cons {rest : List Char} (whole : Whole (cs ++ '\n' :: rest)) :
  Whole rest
  := by
  cases rest with
  | nil => exact .inl rfl
  | cons c rest =>
    right
    obtain none | last := whole
    · simp at none
    · simpa using last

/-- After a line feed there begins a new line. -/
theorem lines_append (whole : Whole cs) (ds : List Char) :
  lines (cs ++ ds) = lines cs ++ lines ds
  := by
  induction cs using line_induction with
  | single cs single =>
    obtain rfl | last := whole
    · rfl
    · exact absurd (List.mem_of_getLast? last) single
  | more cs rest single ih =>
    -- The first line is the same whatever follows its line feed.
    obtain ⟨line, -, lines_eq⟩ := exists_line single
    rw [List.append_assoc, List.cons_append, lines_eq, lines_eq, ih (whole_of_append_cons whole),
      List.cons_append]

/-! ### Statements -/

/-- The line is blank or begins with `#`. -/
def Idle (line : List Char) : Prop :=
  trim line = [] ∨ (trim line).head? = some '#'

instance : DecidablePred Idle :=
  fun _ => inferInstanceAs (Decidable (_ ∨ _))

/-- The lines that are not idle, trimmed. -/
def spoken (texts : List (List Char)) : List (List Char) :=
  (texts.map trim).filter (¬ Idle ·)

/-- What the lines of a text say. -/
def statements (cs : List Char) : List (List Char) :=
  spoken (lines cs)

theorem spoken_append (texts more : List (List Char)) :
  spoken (texts ++ more) = spoken texts ++ spoken more
  := by
  rw [spoken, List.map_append, List.filter_append]
  rfl

theorem spoken_cons (text : List Char) (texts : List (List Char)) :
  spoken (text :: texts) = spoken [text] ++ spoken texts
  := spoken_append [text] texts

theorem idle_trim_iff :
  Idle (trim line) ↔ Idle line
  := by
  rw [Idle, trim_trim, Idle]

theorem spoken_of_idle (idle : Idle line) :
  spoken [line] = []
  := by
  simp [spoken, idle_trim_iff, idle]

theorem spoken_congr (same : trim cs = trim ds) :
  spoken [cs] = spoken [ds]
  := by
  rw [spoken, List.map_singleton, same]
  rfl

/-- The characters are blank, and none is a line feed. -/
def IsPadding (pad : List Char) : Prop :=
  (∀ c ∈ pad, isBlank c = true) ∧ '\n' ∉ pad

theorem isPadding_return :
  IsPadding ['\r']
  := ⟨List.forall_mem_singleton.mpr rfl, by decide⟩

theorem statements_of_single (single : '\n' ∉ cs) :
  statements cs = spoken [cs]
  := by
  rw [statements, lines_of_single single]
  split
  · rename_i none
    rw [none]
    rfl
  · rfl

/-- The statements before and after a line feed are those of the text. -/
theorem statements_append_cons (cs ds : List Char) :
  statements (cs ++ '\n' :: ds) = statements cs ++ statements ds
  := by
  have first : ∀ cs, '\n' ∉ cs → ∀ ds, statements (cs ++ '\n' :: ds)
      = spoken [cs] ++ statements ds := by
    intro cs single ds
    obtain ⟨line, ending, lines_eq⟩ := exists_line single
    have trimmed : trim line = trim cs := by
      obtain rfl | rfl := ending
      · rfl
      · exact (trim_append_blank isPadding_return.1 line).symm
    rw [statements, lines_eq, spoken_cons, spoken_congr trimmed]
    rfl
  induction cs using line_induction with
  | single cs single => rw [first cs single, statements_of_single single]
  | more cs rest single ih =>
    rw [List.append_assoc, List.cons_append, first cs single, first cs single, ih, List.append_assoc]

theorem statements_append_of_whole (whole : Whole cs) (ds : List Char) :
  statements (cs ++ ds) = statements cs ++ statements ds
  := by
  rw [statements, lines_append whole, spoken_append]
  rfl

/-! ### Edits that say nothing -/

theorem statements_padding_append (padding : IsPadding pad) (cs : List Char) :
  statements (pad ++ cs) = statements cs
  := by
  have first : ∀ cs, '\n' ∉ cs → statements (pad ++ cs) = statements cs := by
    intro cs single
    have single' : '\n' ∉ pad ++ cs := by
      rw [List.mem_append, not_or]
      exact ⟨padding.2, single⟩
    rw [statements_of_single single, statements_of_single single',
      spoken_congr (trim_blank_append padding.1 cs)]
  induction cs using line_induction with
  | single cs single => exact first cs single
  | more cs rest single ih =>
    rw [← List.append_assoc, statements_append_cons, statements_append_cons, first cs single]

theorem statements_append_padding (padding : IsPadding pad) (cs : List Char) :
  statements (cs ++ pad) = statements cs
  := by
  induction cs using line_induction with
  | single cs single =>
    have single' : '\n' ∉ cs ++ pad := by
      rw [List.mem_append, not_or]
      exact ⟨single, padding.2⟩
    rw [statements_of_single single, statements_of_single single',
      spoken_congr (trim_append_blank padding.1 cs)]
  | more cs rest single ih =>
    rw [List.append_assoc, List.cons_append, statements_append_cons, statements_append_cons, ih]

/-- A line ends here, be it with the text, at a line feed or at a carriage return before one. -/
def AtEnd (after : List Char) : Prop :=
  after = [] ∨ ['\n'] <+: after ∨ ['\r', '\n'] <+: after

theorem statements_append_of_atEnd (ends : AtEnd after) (cs : List Char) :
  statements (cs ++ after) = statements cs ++ statements after
  := by
  obtain rfl | ⟨rest, rfl⟩ | ⟨rest, rfl⟩ := ends
  · rw [List.append_nil]
    exact (List.append_nil _).symm
  · exact statements_append_cons cs rest
  · have first : statements (['\r', '\n'] ++ rest) = statements rest :=
      statements_append_cons ['\r'] rest
    rw [first]
    have parts : cs ++ (['\r', '\n'] ++ rest) = (cs ++ ['\r']) ++ '\n' :: rest := by simp
    rw [parts, statements_append_cons, statements_append_padding isPadding_return]

/-- The text with a carriage return before every line feed. -/
def withReturns (cs : List Char) : List Char :=
  cs.flatMap fun c => if c = '\n' then ['\r', '\n'] else [c]

theorem withReturns_of_single (single : '\n' ∉ cs) :
  withReturns cs = cs
  := by
  induction cs with
  | nil => rfl
  | cons c cs ih =>
    rw [List.mem_cons, not_or] at single
    rw [withReturns, List.flatMap_cons, if_neg (Ne.symm single.1)]
    exact congrArg (c :: ·) (ih single.2)

theorem statements_withReturns (cs : List Char) :
  statements (withReturns cs) = statements cs
  := by
  induction cs using line_induction with
  | single cs single => rw [withReturns_of_single single]
  | more cs rest single ih =>
    have parts : withReturns (cs ++ '\n' :: rest) = (cs ++ ['\r']) ++ '\n' :: withReturns rest := by
      rw [withReturns, List.flatMap_append]
      change withReturns cs ++ _ = _
      rw [withReturns_of_single single]
      simp [withReturns]
    rw [parts, statements_append_cons, statements_append_cons,
      statements_append_padding isPadding_return, ih]

/-- An edit of a text that leaves what it says. -/
inductive Edit : List Char → List Char → Prop where
  /-- An idle line is added before a line, or at the end. -/
  | insertBefore {before line : List Char} (start : Whole before) (idle : Idle line)
      (single : '\n' ∉ line) (after : List Char) :
      Edit (before ++ after) (before ++ (line ++ '\n' :: after))
  /-- An idle line is added after a line. -/
  | insertAfter {after line : List Char} (ends : AtEnd after) (idle : Idle line)
      (single : '\n' ∉ line) (before : List Char) :
      Edit (before ++ after) (before ++ '\n' :: (line ++ after))
  /-- A line is padded at its beginning. -/
  | padLeft {before pad : List Char} (start : Whole before) (padding : IsPadding pad)
      (after : List Char) :
      Edit (before ++ after) (before ++ (pad ++ after))
  /-- A line is padded at its end. -/
  | padRight {after pad : List Char} (ends : AtEnd after) (padding : IsPadding pad)
      (before : List Char) :
      Edit (before ++ after) (before ++ (pad ++ after))
  /-- Every line feed is turned into a carriage return and a line feed. -/
  | returns (cs : List Char) : Edit cs (withReturns cs)

theorem Edit.statements_eq (edit : Edit cs ds) :
  statements cs = statements ds
  := by
  cases edit with
  | insertBefore start idle single after =>
    rw [statements_append_of_whole start, statements_append_of_whole start, statements_append_cons,
      statements_of_single single, spoken_of_idle idle, List.nil_append]
  | insertAfter ends idle single before =>
    rw [statements_append_of_atEnd ends, statements_append_cons, statements_append_of_atEnd ends,
      statements_of_single single, spoken_of_idle idle, List.nil_append]
  | padLeft start padding after =>
    rw [statements_append_of_whole start, statements_append_of_whole start,
      statements_padding_append padding]
  | padRight ends padding before =>
    rw [← List.append_assoc, statements_append_of_atEnd ends, statements_append_of_atEnd ends,
      statements_append_padding padding]
  | returns => exact (statements_withReturns cs).symm

theorem statements_eq_of_edits (edits : Relation.ReflTransGen Edit cs ds) :
  statements cs = statements ds
  := by
  induction edits with
  | refl => rfl
  | tail _ last ih => exact ih.trans last.statements_eq

end ForwardChaining.Text
