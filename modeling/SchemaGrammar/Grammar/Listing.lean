import SchemaGrammar.Grammar
import SchemaGrammar.Text.Table

/-!
# Listings of grammars

A listing shows the elements of a grammar in order, each with the number of its alternatives and the
names that it refers to.
-/
namespace SchemaGrammar

def Element.distinctReferences (e : Element) : List String := e.references.eraseDups

namespace Grammar

def listing (g : Grammar) (title : String) : Text.Table where
  title := title
  columns := [⟨"Element", .left⟩, ⟨"Alternatives", .right⟩, ⟨"References", .left⟩]
  rows := g.elements.map fun e =>
    [e.name, toString e.alternatives.length, ", ".intercalate e.distinctReferences]

end Grammar

end SchemaGrammar
