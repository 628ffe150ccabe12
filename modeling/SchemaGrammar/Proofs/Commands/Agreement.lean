import SchemaGrammar.Proofs.Commands.Effects
import SchemaGrammar.Proofs.Notation.Halves

/-!
# Checking agrees with compiling

Checking a schema makes the grammar with all lists and does not write it, compiling it with the
referenced lists drops lists first. Once there is a grammar, only declared names can keep it from
being written, and no declaration is dropped. So all of them succeed alike, but for a schema that
holds half of a surrogate pair: its grammar can be written, not encoded, and checking shows only the
names in it.
-/
namespace SchemaGrammar

/-- Errors of the same kind: the names that cannot be written may be fewer, but there are some. -/
inductive GrammarError.SameKind : GrammarError → GrammarError → Prop
  | same (e : GrammarError) : SameKind e e
  | invalidNames {names names' : List String} : names' ≠ [] → names'.Sublist names →
      SameKind (.render (.invalidNames names)) (.render (.invalidNames names'))

namespace Schema

variable {s : Schema} {root : String} {g : Grammar}

end Schema

namespace Command

open Files

inductive Stop.SameKind : Stop → Stop → Prop
  | same (stop : Stop) : SameKind stop stop
  | grammar {e e' : GrammarError} : e.SameKind e' →
      SameKind (.error (.grammar e)) (.error (.grammar e'))

section Outcomes

variable (directory : Path) (t : Tree) (schema : Path) (enumerations : List Path) (root : String)

end Outcomes

/-- A directory with a schema whose only name cannot be written. -/
def numbered : Tree where
  files := [(["home", "a.ts"], "interface A1\x7b\x7d".toUTF8)]
  directories := []
  workingDirectory := ["home"]

end Command

end SchemaGrammar
