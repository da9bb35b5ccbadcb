import ForwardChaining.Rulebase.Basic

/-!
# Writing rulebases

The canonical text of a rulebase has one line for the facts, one for the inputs, and then a
line for each rule and each echo.
-/

namespace ForwardChaining

/-- The canonical line of a rule. -/
def RuleDeclaration.render (r : RuleDeclaration) : String :=
  let label := r.label.elim "" fun label => " " ++ label
  "rule" ++ label ++ ": " ++ " & ".intercalate r.conditions ++ " -> "
    ++ " & ".intercalate r.conclusions

/-- The canonical line of an echo. -/
def EchoDeclaration.render (e : EchoDeclaration) : String :=
  "echo " ++ e.fact ++ " x" ++ toString e.repeatCount ++ ": " ++ e.message

namespace Rulebase

/-- The lines of the canonical text. -/
def renderLines (b : Rulebase) : List String :=
  [ "facts: " ++ ", ".intercalate (b.facts.map (·.name)),
    "input: " ++ ", ".intercalate (b.inputs.map (·.name)) ]
    ++ b.rules.map (·.render) ++ b.echoes.map (·.render)

/-- The canonical text of a rulebase. -/
def render (b : Rulebase) : String :=
  String.join (b.renderLines.map (· ++ "\n"))

end Rulebase

end ForwardChaining
