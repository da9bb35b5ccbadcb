/-!
# Rulebases

A rulebase declares facts, inputs, rules and echoes, in the order in which they are written,
each with the number of its line.
-/

namespace ForwardChaining

/-- A name, as written on a line. -/
structure NameDeclaration where
  name : String
  line : Nat
  deriving DecidableEq

/-- A rule, as written on a line. -/
structure RuleDeclaration where
  label : Option String
  conditions : List String
  conclusions : List String
  line : Nat
  deriving DecidableEq

/-- A message to be said when a fact is concluded. -/
structure EchoDeclaration where
  fact : String
  /-- How often the message is said. -/
  repeatCount : Nat
  message : String
  line : Nat
  deriving DecidableEq

/-- The declarations of a rulebase. -/
structure Rulebase where
  /-- Where the rulebase comes from, usually a path. -/
  source : Option String := none
  facts : List NameDeclaration := []
  inputs : List NameDeclaration := []
  rules : List RuleDeclaration := []
  echoes : List EchoDeclaration := []
  deriving DecidableEq

end ForwardChaining
