import SchemaGrammar.Loading
import SchemaGrammar.Schema.Grammar

/-!
# Compilation

From schema source to grammar text. Compilation is all or nothing: it gives the whole text or one
error.
-/
namespace SchemaGrammar

inductive CompilationError where
  | load (e : LoadError)
  | grammar (e : GrammarError)
  deriving DecidableEq, Repr

def CompilationError.diagnostic : CompilationError → Diagnostic
  | load e => e.diagnostic
  | grammar e => e.diagnostic

/-- The enumerations of an extra source, which declares nothing else. -/
def enumerationsOfSource (text : String) : Except LoadError Schema := do
  (← Schema.ofSource sourceFile text).enumerationsOnly "<enums>"

def compileSource (file : Path) (text : String) (enumText : Option String) (root : String)
    (lists : ListElements) : Except CompilationError String := do
  let schema ← (Schema.ofSource file text).mapError .load
  let enums ←
    match enumText with
    | none => pure {}
    | some enumText => (enumerationsOfSource enumText).mapError .load
  ((enums ++ schema).grammarText root lists).mapError .grammar

end SchemaGrammar
