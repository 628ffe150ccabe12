/-!
# Rules

A rule describes texts: exact texts, patterns of characters, other productions by name, and
sequences, groups and choices of rules.
-/
namespace SchemaGrammar

inductive Rule where
  /-- The rules one after another. -/
  | sequence (rules : List Rule)
  /-- The rules one after another, once or any number of times. -/
  | group (rules : List Rule) (repeats : Bool)
  /-- Exactly this text. -/
  | literal (text : String)
  /-- What the production of this name describes. -/
  | reference (name : String)
  /-- What a character pattern describes. -/
  | charClass (pattern : String)
  /-- What one of two or more rules describes. -/
  | choice (first second : Rule) (others : List Rule)
  deriving Repr, Inhabited

namespace Rule

def star (rules : List Rule) : Rule := .group rules true

mutual

def references : Rule → List String
  | .sequence rules => referencesOf rules
  | .group rules _ => referencesOf rules
  | .literal _ => []
  | .reference name => [name]
  | .charClass _ => []
  | .choice first second others => first.references ++ second.references ++ referencesOf others

def referencesOf : List Rule → List String
  | [] => []
  | rule :: rules => rule.references ++ referencesOf rules

end

@[simp] theorem referencesOf_eq_flatMap (rules : List Rule) :
    referencesOf rules = rules.flatMap references := by
  induction rules with
  | nil => rfl
  | cons rule rules ih => simp [referencesOf, ih]

end Rule

end SchemaGrammar
