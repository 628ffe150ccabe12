import SchemaGrammar.Resolution
import SchemaGrammar.Text.NameOrder
import SchemaGrammar.Text.Quoted
import SchemaGrammar.Text.Shown

/-!
# Elements of a declaration

A record becomes an object element, with its properties in declared order, and a list element for
arrays of it. An enumeration becomes one element with a quoted value for each member.
-/
namespace SchemaGrammar

inductive CompileError where
  | unsupportedDeclaration (kind : String) (name : Option String) (location : Option Location)
  | typeParameters (record : String) (parameters : List String) (location : Option Location)
  | duplicateProperty (record property : String) (location : Option Location)
  | unresolvedType (record property spelling : String) (location : Option Location)
  | emptyEnumeration (enumeration : String) (location : Option Location)
  | memberWithoutValue (enumeration member : String) (location : Option Location)
  /-- The root is none of the records, whose names follow in order. -/
  | unknownRoot (root : String) (records : List String)
  /-- The names, in order, that more than one element would have. -/
  | duplicateElements (names : List String)
  deriving DecidableEq, Repr

namespace CompileError

def message : CompileError → String
  | unsupportedDeclaration kind name _ =>
    let label :=
      match name with
      | some name => if name = "" then kind else kind ++ " '" ++ name ++ "'"
      | none => kind
    "Unsupported declaration " ++ label ++ ": only interfaces and enums can be compiled"
  | typeParameters record parameters _ =>
    record ++ ": interfaces cannot have type parameters (found <" ++
      ", ".intercalate parameters ++ ">)"
  | duplicateProperty record property _ =>
    record ++ ": duplicate property '" ++ property ++ "'"
  | unresolvedType record property spelling _ =>
    "Failed resolving property " ++ record ++ "." ++ property ++ ": unsupported type " ++ spelling
  | emptyEnumeration enumeration _ =>
    enumeration ++ ": enumerations must declare at least one member"
  | memberWithoutValue enumeration member _ =>
    enumeration ++ "." ++ member ++
      ": enumeration members must be initialized with a string literal"
  | unknownRoot root records =>
    "Root type '" ++ root ++ "' not found. Available interfaces: " ++
      Text.shownList (records.map Text.shown)
  | duplicateElements names =>
    "Duplicate grammar rule names: " ++ ", ".intercalate names ++
      " (declaration names must not collide with each other, with built-in rules, or with " ++
      "generated '<name>list' rules)"

def location? : CompileError → Option Location
  | unsupportedDeclaration _ _ l => l
  | typeParameters _ _ l => l
  | duplicateProperty _ _ l => l
  | unresolvedType _ _ _ l => l
  | emptyEnumeration _ l => l
  | memberWithoutValue _ _ l => l
  | unknownRoot _ _ => none
  | duplicateElements _ => none

def diagnostic (e : CompileError) : Diagnostic :=
  ⟨e.message, e.location?.map Context.ofLocation⟩

end CompileError

namespace Record

/-- The earliest property whose name an earlier one has. -/
def repeatedProperty? (r : Record) : Option Property :=
  go [] r.properties
where
  go (seen : List String) : List Property → Option Property
    | [] => none
    | p :: ps => if p.name ∈ seen then some p else go (p.name :: seen) ps

def propertyRules (p : Property) (value : Rule) : List Rule :=
  [Builtin.blank.reference, .literal (Text.quoted p.name ++ ":"), Builtin.blank.reference, value]

/-- The rules of all properties, with a comma before every one but the first. -/
def memberRules : List (Property × Rule) → List Rule
  | [] => []
  | (p, value) :: members =>
    propertyRules p value ++ members.flatMap fun (p, value) => .literal "," :: propertyRules p value

def objectElement (name : String) (members : List (Property × Rule)) : Element :=
  ⟨name, .sequence (.literal "\x7b" :: memberRules members ++ [.literal "\x7d"]), []⟩

def listElement (name : String) : Element :=
  let object := Rule.reference name
  ⟨listName name, .literal "[]",
    [.sequence [.literal "[", Builtin.blank.reference, object,
      .star [.literal ",", Builtin.blank.reference, object], .literal "]"]]⟩

def resolveProperty (scope : Scope) (record : String) (p : Property) :
    Except CompileError (Property × Rule) :=
  match scope.slot? p.type with
  | .error spelling => .error (.unresolvedType record p.name spelling p.location)
  | .ok type => .ok (p, type.rule)

def elements (scope : Scope) (r : Record) : Except CompileError (List Element) := do
  if r.typeParameters ≠ [] then
    throw (.typeParameters r.name r.typeParameters r.location)
  if let some p := r.repeatedProperty? then
    throw (.duplicateProperty r.name p.name p.location)
  let members ← r.properties.mapM (resolveProperty scope r.name)
  return [objectElement r.name members, listElement r.name]

end Record

namespace Enumeration

/-- The alternative of a member: its value, quoted, as a literal. -/
def alternative (e : Enumeration) (m : Member) : Except CompileError Rule :=
  match m.value with
  | none => .error (.memberWithoutValue e.name m.name e.location)
  | some value => .ok (.literal (Text.quoted value))

def element (e : Enumeration) : Except CompileError Element := do
  match e.members with
  | [] => throw (.emptyEnumeration e.name e.location)
  | first :: others =>
    return ⟨e.name, ← e.alternative first, ← others.mapM e.alternative⟩

end Enumeration

def Declaration.elements (scope : Scope) : Declaration → Except CompileError (List Element)
  | .record r => r.elements scope
  | .enumeration e => e.element.map ([·])
  | .other o => .error (.unsupportedDeclaration o.kind o.name o.location)

end SchemaGrammar
