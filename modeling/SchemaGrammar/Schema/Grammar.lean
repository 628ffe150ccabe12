import SchemaGrammar.Grammar.Rendering
import SchemaGrammar.Schema.Elements

/-!
# The grammar of a schema

The start production refers to the root record. The elements of the declarations follow, those of
later declarations first, and the built-in elements come last. The grammar exists if every
declaration has its elements, the root is a declared record, and no two elements share a name.
-/
namespace SchemaGrammar

inductive ListElements where
  | all
  /-- Those whose list element another element refers to. -/
  | referenced
  deriving DecidableEq, Repr

namespace ListElements

def name : ListElements → String
  | all => "all"
  | referenced => "referenced"

def ofName? (name : String) : Option ListElements :=
  [all, referenced].find? (·.name = name)

end ListElements

inductive GrammarError where
  | compile (e : CompileError)
  | render (e : RenderError)
  deriving DecidableEq, Repr

def GrammarError.diagnostic : GrammarError → Diagnostic
  | compile e => e.diagnostic
  | render e => ⟨e.message, none⟩

namespace Schema

def scope (s : Schema) : Scope := ⟨Builtin.names, s.recordNames, s.enumerationNames⟩

def listNames (s : Schema) : List String := s.recordNames.map listName

/-- The names that elements other than list elements refer to. -/
def usedNames (s : Schema) (elements : List Element) : List String :=
  (elements.filter (!s.listNames.contains ·.name)).flatMap Element.references

/-- The elements without the list elements that no other element refers to. -/
def dropUnusedLists (s : Schema) (elements : List Element) : List Element :=
  elements.filter fun e =>
    !s.listNames.contains e.name || (s.usedNames elements).contains e.name

/-- The production a text starts from. -/
def rootElement (root : String) : Element := ⟨Grammar.rootName, .reference root, []⟩

def grammar (s : Schema) (root : String) (lists : ListElements) : Except CompileError Grammar := do
  let produced ← s.declarations.mapM (·.elements s.scope)
  if root ∉ s.recordNames then
    throw (.unknownRoot root (Text.sortedNames s.recordNames))
  let elements := produced.reverse.flatten ++ Builtin.elements
  let repeated := Text.repeatedNames (Grammar.rootName :: elements.map Element.name)
  if repeated ≠ [] then
    throw (.duplicateElements (Text.sortedNames repeated))
  match lists with
  | .all => return ⟨rootElement root :: elements⟩
  | .referenced => return ⟨rootElement root :: s.dropUnusedLists elements⟩

def grammarText (s : Schema) (root : String) (lists : ListElements) : Except GrammarError String :=
  match s.grammar root lists with
  | .error e => .error (.compile e)
  | .ok g =>
    match g.text with
    | .error e => .error (.render e)
    | .ok text => .ok text

end Schema

end SchemaGrammar
