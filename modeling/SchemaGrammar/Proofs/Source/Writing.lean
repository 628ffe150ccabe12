import SchemaGrammar.Proofs.Source.Lexemes
import SchemaGrammar.Text.Quoted

/-!
# Writing schemas

The source text of a schema, and the schemas that source can describe: records and enumerations with
names that the lexer knows, types in canonical form, and members whose value is a string or missing.
-/
namespace SchemaGrammar

namespace Source

/-- A name that the lexer reads as one identifier or keyword. -/
structure Word where
  text : String
  isName : IsName text

namespace Word

def interface : Word := ⟨"interface", isName_of_cons rfl rfl rfl⟩

def enum : Word := ⟨"enum", isName_of_cons rfl rfl rfl⟩

end Word

mutual

/-- An alternative of a type: names with dots between them, type arguments, pairs of brackets. -/
inductive TypeAtom where
  | mk (head : Word) (path : List Word) (arguments : List TypeUnion) (brackets : Nat)

inductive TypeUnion where
  | mk (first : TypeAtom) (others : List TypeAtom)

end

def argumentsText : List String → String
  | [] => ""
  | text :: texts => "<" ++ ", ".intercalate (text :: texts) ++ ">"

mutual

def TypeAtom.text : TypeAtom → String
  | .mk head path arguments brackets =>
    head.text ++ String.join (path.map ("." ++ ·.text)) ++
      argumentsText (TypeUnion.texts arguments) ++ String.join (List.replicate brackets "[]")

def TypeUnion.text : TypeUnion → String
  | .mk first others => " | ".intercalate (first.text :: TypeAtom.texts others)

def TypeAtom.texts : List TypeAtom → List String
  | [] => []
  | a :: as => a.text :: TypeAtom.texts as

def TypeUnion.texts : List TypeUnion → List String
  | [] => []
  | t :: ts => t.text :: TypeUnion.texts ts

end

def TypeUnion.typeExpr : TypeUnion → TypeExpr
  | .mk first others => ⟨first.text, TypeAtom.texts others⟩

theorem TypeUnion.text_typeExpr (t : TypeUnion) : t.typeExpr.text = t.text := by
  cases t
  rw [typeExpr, text, TypeExpr.text, TypeExpr.spellings]

end Source

open Source

def Property.source (p : Property) : String :=
  Text.quoted p.name ++ ": " ++ p.type.text ++ "; "

def Record.source (r : Record) : String :=
  "interface " ++ r.name ++ argumentsText r.typeParameters ++ " \x7b " ++
    String.join (r.properties.map Property.source) ++ "\x7d"

def Member.source (m : Member) : String :=
  Text.quoted m.name ++
    match m.value with
    | some value => " = " ++ Text.quoted value
    | none => ""

def Enumeration.source (e : Enumeration) : String :=
  "enum " ++ e.name ++ " \x7b " ++ ", ".intercalate (e.members.map Member.source) ++ " \x7d"

def Declaration.source : Declaration → String
  | .record r => r.source
  | .enumeration e => e.source
  | .other _ => ""

/-- The source text of a schema, one declaration a line. -/
def Schema.source (s : Schema) : String :=
  String.join (s.declarations.map (·.source ++ "\n"))

structure Record.Writable (r : Record) : Prop where
  name : IsName r.name
  typeParameters : ∀ name ∈ r.typeParameters, IsName name
  types : ∀ p ∈ r.properties, ∀ spelling ∈ p.type.spellings, ∃ a : TypeAtom, a.text = spelling

structure Enumeration.Writable (e : Enumeration) : Prop where
  name : IsName e.name
  initializer : ∀ m ∈ e.members, m.initializer = none

def Declaration.Writable : Declaration → Prop
  | .record r => r.Writable
  | .enumeration e => e.Writable
  | .other _ => False

def Schema.Writable (s : Schema) : Prop := ∀ d ∈ s.declarations, d.Writable

/-! ## Schemas apart from places -/

def Property.unlocated (p : Property) : Property := { p with location := none }

def Record.unlocated (r : Record) : Record :=
  { r with location := none, properties := r.properties.map Property.unlocated }

def Enumeration.unlocated (e : Enumeration) : Enumeration := { e with location := none }

def Declaration.unlocated : Declaration → Declaration
  | .record r => .record r.unlocated
  | .enumeration e => .enumeration e.unlocated
  | .other o => .other { o with location := none }

def Schema.unlocated (s : Schema) : Schema := ⟨s.declarations.map Declaration.unlocated⟩

end SchemaGrammar
