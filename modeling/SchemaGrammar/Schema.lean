import SchemaGrammar.Diagnostic

/-!
# Schemas

A schema is a list of declarations: records with typed properties, enumerations of string values,
and declarations of other kinds, which are known by kind and name only.
-/
namespace SchemaGrammar

/-- A declared type: the spellings of its alternatives, of which there is at least one. -/
structure TypeExpr where
  first : String
  others : List String := []
  deriving DecidableEq, Repr

namespace TypeExpr

def spellings (t : TypeExpr) : List String := t.first :: t.others

def text (t : TypeExpr) : String := " | ".intercalate t.spellings

end TypeExpr

structure Property where
  name : String
  type : TypeExpr
  location : Option Location
  deriving DecidableEq, Repr

structure Record where
  name : String
  properties : List Property
  typeParameters : List String
  location : Option Location
  deriving DecidableEq, Repr

/-- A member of an enumeration: a string value, or the text of another initializer, or neither. -/
structure Member where
  name : String
  value : Option String
  initializer : Option String
  deriving DecidableEq, Repr

structure Enumeration where
  name : String
  members : List Member
  location : Option Location
  deriving DecidableEq, Repr

structure OtherDeclaration where
  kind : String
  name : Option String
  location : Option Location
  deriving DecidableEq, Repr

inductive Declaration where
  | record (r : Record)
  | enumeration (e : Enumeration)
  | other (o : OtherDeclaration)
  deriving DecidableEq, Repr

namespace Declaration

def record? : Declaration → Option Record
  | record r => some r
  | _ => none

def enumeration? : Declaration → Option Enumeration
  | enumeration e => some e
  | _ => none

/-- The declared name; a declaration of another kind may have none. -/
def name? : Declaration → Option String
  | record r => some r.name
  | enumeration e => some e.name
  | other o => o.name

end Declaration

structure Schema where
  declarations : List Declaration := []
  deriving DecidableEq, Repr

namespace Schema

def records (s : Schema) : List Record := s.declarations.filterMap Declaration.record?

def enumerations (s : Schema) : List Enumeration :=
  s.declarations.filterMap Declaration.enumeration?

def recordNames (s : Schema) : List String := s.records.map Record.name

def enumerationNames (s : Schema) : List String := s.enumerations.map Enumeration.name

def append (s t : Schema) : Schema := ⟨s.declarations ++ t.declarations⟩

instance : Append Schema := ⟨append⟩

end Schema

end SchemaGrammar
