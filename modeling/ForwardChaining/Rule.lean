import ForwardChaining.Memory

/-!
# Rules

A rule leads from conditions to conclusions, both lists of distinct facts.  It is satisfied
when all its conditions have been asserted, and to fire it is to perform the effects of its
conclusions in order.  A rule is rendered as a sentence, with a choice of connectives.
-/

namespace ForwardChaining

/-- A rule's place in the list of rules, counted from zero. -/
structure RuleId where
  index : Nat
  deriving DecidableEq, Inhabited

namespace RuleId

/-- The number by which a rule is listed, counted from one. -/
def number (id : RuleId) : Nat :=
  id.index + 1

/-- A rule, as texts refer to it. -/
def describe (id : RuleId) : String :=
  "#" ++ toString id.number

end RuleId

/-- Leads from conditions to conclusions. -/
structure Rule where
  label : Option String := none
  conditions : List FactId := []
  conclusions : List FactId := []
  deriving DecidableEq, Inhabited

/-- The list `target` followed by those of `facts` that it does not have yet. -/
def appendNew (target facts : List FactId) : List FactId :=
  facts.foldl (fun known fact => if known.contains fact then known else known ++ [fact]) target

theorem appendNew_cons (target : List FactId) (first : FactId) (facts : List FactId) :
  appendNew target (first :: facts)
    = appendNew (if target.contains first then target else target ++ [first]) facts
  := rfl

namespace Rule

/-- The rule with further conditions; those it has are passed over. -/
def addConditions (r : Rule) (facts : List FactId) : Rule :=
  { r with conditions := appendNew r.conditions facts }

/-- The rule with further conclusions; those it has are passed over. -/
def addConclusions (r : Rule) (facts : List FactId) : Rule :=
  { r with conclusions := appendNew r.conclusions facts }

/-- The rule from `conditions` to `conclusions`. -/
def implies (conditions conclusions : List FactId) : Rule :=
  (({} : Rule).addConditions conditions).addConclusions conclusions

theorem conditions_implies (conditions conclusions : List FactId) :
  (implies conditions conclusions).conditions = appendNew [] conditions
  := rfl

theorem conclusions_implies (conditions conclusions : List FactId) :
  (implies conditions conclusions).conclusions = appendNew [] conclusions
  := rfl

/-- Every condition has been asserted. -/
def isSatisfied (r : Rule) (m : WorkingMemory) : Bool :=
  r.conditions.all m.contains

/-- The conditions that have not been asserted. -/
def missing (r : Rule) (m : WorkingMemory) : List FactId :=
  r.conditions.filter fun c => !m.contains c

/-- The fact is a conclusion of the rule. -/
def concludes (r : Rule) (fact : FactId) : Bool :=
  r.conclusions.contains fact

/-- The invocations made when the rule fires, whether or not it is satisfied. -/
def fire (r : Rule) (registry : Registry) : List Invocation :=
  r.conclusions.flatMap registry.perform

/-- Checks that the registry issued every fact of the rule. -/
def validate (r : Rule) (registry : Registry) : Except Error Unit :=
  (r.conditions ++ r.conclusions).forM registry.check

end Rule

/-! ### Sentences -/

/-- The words that turn a rule into a sentence. -/
structure Wording where
  /-- Opens the conditions. -/
  ifWord : String := "If"
  /-- Joins facts. -/
  andWord : String := "and"
  /-- Opens the conclusions. -/
  thenWord : String := "then"
  /-- Stands for an empty list of conditions. -/
  alwaysWord : String := "true"
  deriving DecidableEq

/-- The names of facts, joined as a sentence joins them. -/
def Wording.list (w : Wording) (registry : Registry) (facts : List FactId) : String :=
  (" " ++ w.andWord ++ " ").intercalate (facts.map registry.displayName)

/-- The rule as a sentence. -/
def Rule.describe (r : Rule) (registry : Registry) (w : Wording := {}) : String :=
  let conditions :=
    if r.conditions.isEmpty then w.alwaysWord else w.list registry r.conditions
  w.ifWord ++ " " ++ conditions ++ ", " ++ w.thenWord ++ " "
    ++ w.list registry r.conclusions ++ "."

end ForwardChaining
