import SchemaGrammar.Rule

/-!
# Grammars

A grammar is a list of elements: productions with a name and one or more alternatives. The start
production is the element named `root`, and it comes first.
-/
namespace SchemaGrammar

/-- A production: its name and its alternatives, of which there is at least one. -/
structure Element where
  name : String
  first : Rule
  others : List Rule := []
  deriving Repr, Inhabited

namespace Element

def alternatives (e : Element) : List Rule := e.first :: e.others

/-- The names that the alternatives refer to, in order and with repeats. -/
def references (e : Element) : List String := e.alternatives.flatMap Rule.references

end Element

structure Grammar where
  elements : List Element
  deriving Repr, Inhabited

namespace Grammar

def rootName : String := "root"

def names (g : Grammar) : List String := g.elements.map Element.name

def find? (g : Grammar) (name : String) : Option Element :=
  g.elements.find? (·.name = name)

def contains (g : Grammar) (name : String) : Bool :=
  g.elements.any (·.name = name)

/-- The start production, if it comes first. -/
def root? (g : Grammar) : Option Element :=
  g.elements.head?.filter (·.name = rootName)

end Grammar

end SchemaGrammar
