import SchemaGrammar.Grammar
import SchemaGrammar.Text.NameOrder
import SchemaGrammar.Text.Quoted
import SchemaGrammar.Text.Shown

/-!
# The text of a grammar

Each element is one line, `name ::= alternative | alternative`. The members of a sequence stand
three spaces apart, literals are quoted, names and patterns stand for themselves, a group is in
parentheses with a star if it repeats, and so is a choice with ` | ` between its options. A grammar
is written only if every name consists of ASCII letters and every reference names an element.
-/
namespace SchemaGrammar

def memberSeparator : String := "   "

def optionSeparator : String := " | "

namespace Rule

mutual

def text : Rule → String
  | .sequence rules => memberSeparator.intercalate (texts rules)
  | .group rules repeats =>
    "(" ++ memberSeparator.intercalate (texts rules) ++ ")" ++ (if repeats then "*" else "")
  | .literal text => Text.quoted text
  | .reference name => name
  | .charClass pattern => pattern
  | .choice first second others =>
    "(" ++ optionSeparator.intercalate (first.text :: second.text :: texts others) ++ ")"

def texts : List Rule → List String
  | [] => []
  | rule :: rules => rule.text :: texts rules

end

@[simp] theorem texts_eq_map (rules : List Rule) : texts rules = rules.map text := by
  induction rules with
  | nil => rfl
  | cons rule rules ih => simp [texts, ih]

end Rule

def Element.text (e : Element) : String :=
  e.name ++ " ::= " ++ optionSeparator.intercalate (e.alternatives.map Rule.text)

inductive RenderError where
  /-- The element names that are not made of ASCII letters, in grammar order. -/
  | invalidNames (names : List String)
  /-- The names referred to without an element of that name, each with the elements that use it. -/
  | danglingReferences (uses : List (String × List String))
  deriving DecidableEq, Repr

def RenderError.message : RenderError → String
  | .invalidNames names =>
    "Rule names must match pattern [a-zA-Z]+ and cannot contain special characters: " ++
      ", ".intercalate (names.map Text.shown)
  | .danglingReferences uses =>
    "Invalid references in ruleset:\n" ++ "\n".intercalate (uses.map fun (name, users) =>
      "  - " ++ name ++ " (referenced by " ++ ", ".intercalate users ++ ")")

/-- A name that can be written: one or more ASCII letters. -/
def isPlainName (name : String) : Bool :=
  !name.toList.isEmpty && name.toList.all Char.isAlpha

namespace Grammar

def invalidNames (g : Grammar) : List String :=
  g.names.filter (!isPlainName ·)

def missingNames (g : Grammar) : List String :=
  Text.sortedNames ((g.elements.flatMap Element.references).filter (!g.names.contains ·))

def usersOf (g : Grammar) (name : String) : List String :=
  Text.sortedNames ((g.elements.filter (·.references.contains name)).map Element.name)

/-- Why the grammar cannot be written, if it cannot. Names are checked before references. -/
def fault? (g : Grammar) : Option RenderError :=
  if g.invalidNames ≠ [] then some (.invalidNames g.invalidNames)
  else if g.missingNames ≠ [] then
    some (.danglingReferences (g.missingNames.map fun name => (name, g.usersOf name)))
  else none

def lines (g : Grammar) : String :=
  String.join (g.elements.map fun e => e.text ++ "\n")

def text (g : Grammar) : Except RenderError String :=
  match g.fault? with
  | some e => .error e
  | none => .ok g.lines

end Grammar

end SchemaGrammar
