import Mathlib.Algebra.GroupWithZero.Nat
import Mathlib.Data.String.Basic
import ForwardChaining.Proofs.Rulebase.WellFormed

/-!
# The size of a rulebase

The names that a rulebase lists take no more bytes than the text that it is read from
(`Rulebase.weight_of_parse`).
-/

namespace ForwardChaining

open String (utf8Len utf8Len_nil utf8Len_cons utf8Len_append utf8Len_toList utf8Len_le_of_infix)

/-! ### Pieces of a text -/

namespace Text

/-- The number of bytes of some texts. -/
def weight (pieces : List (List Char)) : Nat :=
  (pieces.map utf8Len).sum

theorem weight_cons (piece : List Char) (pieces : List (List Char)) :
  weight (piece :: pieces) = utf8Len piece + weight pieces
  := rfl

theorem weight_splitOn_le (separator : Char) (cs : List Char) :
  weight (splitOn separator cs) ≤ utf8Len cs
  := by
  induction cs with
  | nil => apply Nat.le_refl
  | cons c rest ih =>
    rw [splitOn, utf8Len_cons]
    split
    · rw [weight_cons, utf8Len_nil]
      omega
    · split
      · rw [weight_cons, utf8Len_cons, utf8Len_nil]
        simp [weight]
      · rename_i piece others pieces
        rw [pieces, weight_cons] at ih
        rw [weight_cons, utf8Len_cons]
        omega

theorem weight_lines_le (cs : List Char) :
  weight (lines cs) ≤ utf8Len cs
  := by
  fun_induction lines cs with
  | case1 => apply Nat.le_refl
  | case2 rest ih =>
    rw [weight_cons, utf8Len_cons, utf8Len_nil]
    omega
  | case3 rest ih =>
    rw [weight_cons, utf8Len_cons, utf8Len_cons, utf8Len_nil]
    omega
  | case4 c rest _ _ none ih =>
    rw [weight_cons, utf8Len_cons, utf8Len_cons, utf8Len_nil]
    simp [weight]
  | case5 c rest _ _ line others pieces ih =>
    rw [pieces, weight_cons] at ih
    rw [weight_cons, utf8Len_cons, utf8Len_cons]
    omega

theorem weight_map_trim_le (pieces : List (List Char)) :
  weight (pieces.map trim) ≤ weight pieces
  := by
  induction pieces with
  | nil => apply Nat.le_refl
  | cons piece pieces ih =>
    have trimmed := utf8Len_le_of_infix (trim_isInfix piece)
    rw [List.map_cons, weight_cons, weight_cons]
    omega

end Text

namespace Declaration

variable {d : Declaration} {separator : Char} {list body head line : List Char}
  {names : List (List Char)} {label : Option (List Char)}

/-- The number of bytes of the names that a declaration lists, with the arrow of a rule. -/
def weight : Declaration → Nat
  | facts names | inputs names => Text.weight names
  | rule _ conditions conclusions => Text.weight conditions + Text.weight conclusions + 2
  | echo .. => 0

theorem weight_of_readNames (read : readNames separator list = .ok names) :
  Text.weight names ≤ utf8Len list
  := by
  rw [readNames] at read
  split at read
  · cases read
    apply Nat.zero_le
  · dsimp only at read
    split at read
    · cases read
    · cases read
      apply (Text.weight_map_trim_le _).trans
      apply (Text.weight_splitOn_le _ _).trans
      apply utf8Len_le_of_infix (Text.trim_isInfix list)

theorem weight_of_readRule (read : readRule label body = .ok d) :
  d.weight ≤ utf8Len body
  := by
  rw [readRule] at read
  split at read
  · cases read
  · rename_i left right split
    obtain ⟨rfl, -⟩ := Text.parts_of_splitArrow? split
    obtain ⟨conditions, readLeft, read⟩ := exists_of_bind_eq_ok read
    obtain ⟨conclusions, readRight, read⟩ := exists_of_bind_eq_ok read
    split at read
    · cases read
    · cases read
      have before := weight_of_readNames readLeft
      have after := weight_of_readNames readRight
      have arrow : '-'.utf8Size = 1 ∧ '>'.utf8Size = 1 := And.intro rfl rfl
      rw [weight, utf8Len_append, utf8Len_cons, utf8Len_cons]
      omega

theorem weight_of_readEcho {argument message : List Char}
    (read : readEcho argument message = .ok d) :
  d.weight = 0
  := by
  rw [readEcho] at read
  repeat' split at read
  all_goals cases read
  all_goals rfl

theorem weight_of_readDirective (read : readDirective head body = .ok d) :
  d.weight ≤ utf8Len body
  := by
  rw [readDirective] at read
  dsimp only at read
  split at read
  · obtain ⟨names, readBody, rfl⟩ := exists_of_map_eq_ok read
    apply weight_of_readNames readBody
  · obtain ⟨names, readBody, rfl⟩ := exists_of_map_eq_ok read
    apply weight_of_readNames readBody
  · apply weight_of_readRule read
  · rw [weight_of_readEcho read]
    apply Nat.zero_le
  all_goals cases read

theorem weight_of_readLine (read : readLine line = .ok (some d)) :
  d.weight ≤ utf8Len line
  := by
  dsimp only [readLine] at read
  split at read
  · cases read
  · split at read
    · cases read
    · rename_i head body split
      obtain ⟨c, parts, -⟩ := Text.parts_of_splitFirst? split
      obtain ⟨_, readParts, same⟩ := exists_of_map_eq_ok read
      cases same
      apply (weight_of_readDirective readParts).trans
      have trimmed := utf8Len_le_of_infix (Text.trim_isInfix body)
      apply trimmed.trans
      apply utf8Len_le_of_infix
      apply List.IsInfix.trans _ (Text.trim_isInfix line)
      rw [parts]
      apply ((List.suffix_cons c body).trans (List.suffix_append head _)).isInfix

end Declaration

/-! ### Rulebases -/

/-- The number of bytes of some names. -/
def weightOfNames (names : List String) : Nat :=
  (names.map String.utf8ByteSize).sum

theorem weightOfNames_map_ofList (names : List (List Char)) :
  weightOfNames (names.map String.ofList) = Text.weight names
  := by
  simp [weightOfNames, Text.weight, Function.comp_def, String.utf8ByteSize_ofList]

/-- The number of bytes of the names that a rule lists, with its arrow. -/
def RuleDeclaration.weight (d : RuleDeclaration) : Nat :=
  weightOfNames d.conditions + weightOfNames d.conclusions + 2

namespace Rulebase

variable {b b' : Rulebase} {line : Nat} {texts : List (List Char)}

/-- The number of bytes of the names that are declared, taken as inputs and listed in rules. -/
def weight (b : Rulebase) : Nat :=
  weightOfNames (b.facts.map (·.name)) + weightOfNames (b.inputs.map (·.name))
    + (b.rules.map (·.weight)).sum

theorem weight_add (b : Rulebase) (line : Nat) (d : Declaration) :
  (b.add line d).weight = b.weight + d.weight
  := by
  cases d with
  | facts names =>
    have added := weightOfNames_map_ofList names
    simp only [weight, add, Declaration.weight, weightOfNames, List.map_append, List.map_map,
      List.sum_append, Function.comp_def] at added ⊢
    omega
  | inputs names =>
    have added := weightOfNames_map_ofList names
    simp only [weight, add, Declaration.weight, weightOfNames, List.map_append, List.map_map,
      List.sum_append, Function.comp_def] at added ⊢
    omega
  | rule label conditions conclusions =>
    simp only [weight, add, Declaration.weight, RuleDeclaration.weight, List.map_append,
      List.map_singleton, List.sum_append, List.sum_singleton, weightOfNames_map_ofList]
    omega
  | echo fact count message => rfl

theorem weight_of_readLines (read : b.readLines line texts = .ok b') :
  b'.weight ≤ b.weight + Text.weight texts
  := by
  induction texts generalizing b line with
  | nil =>
    cases read
    apply Nat.le_refl
  | cons text rest ih =>
    rw [readLines] at read
    rw [Text.weight_cons]
    split at read
    · cases read
    · have bound := ih read
      omega
    · rename_i d readText
      have bound := ih read
      have one := Declaration.weight_of_readLine readText
      rw [weight_add] at bound
      omega

/-- What a rulebase lists takes no more bytes than the text that it is read from. -/
theorem weight_of_parse {text : String} (read : parse text = .ok b) :
  b.weight ≤ text.utf8ByteSize
  := by
  have bound := weight_of_readLines read
  have lines := Text.weight_lines_le text.toList
  have nothing : ({} : Rulebase).weight = 0 := rfl
  rw [utf8Len_toList] at lines
  omega

end Rulebase

end ForwardChaining
