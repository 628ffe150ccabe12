import SchemaGrammar.Builtin
import SchemaGrammar.Schema
import SchemaGrammar.Text.CharClass

/-!
# Resolution of types

A spelling is resolved by an ordered table of steps, each of which claims some spellings; the first
step that claims one decides. Built-in names come first, then lists of scalars, enumerations,
records, and arrays of records.
-/
namespace SchemaGrammar

/-- What one spelling stands for. -/
inductive ItemType where
  /-- The production of a name. -/
  | element (name : String)
  /-- An array of objects of a record. -/
  | array (record : String)
  deriving DecidableEq, Repr

inductive SlotType where
  | item (type : ItemType)
  | union (first second : ItemType) (others : List ItemType)
  deriving DecidableEq, Repr

structure Scope where
  builtins : List String
  records : List String
  enumerations : List String
  deriving DecidableEq, Repr

namespace Spelling

def isNamePart (c : Char) : Bool :=
  Text.isLetterOrNumber c || c = '_' || c = '$'

/-- A name that begins with an ASCII letter, `_` or `$`, and what follows it. -/
def splitName : List Char → Option (List Char × List Char)
  | [] => none
  | c :: r =>
    if c.isAlpha || c = '_' || c = '$' then
      some (c :: r.takeWhile isNamePart, r.dropWhile isNamePart)
    else none

def skipBlanks (cs : List Char) : List Char := cs.dropWhile Text.isBlank

def genericElement (cs : List Char) : Option (List Char) :=
  match cs with
  | 'A' :: 'r' :: 'r' :: 'a' :: 'y' :: r =>
    match skipBlanks r with
    | '<' :: r =>
      match splitName (skipBlanks r) with
      | some (name, r) => if skipBlanks r = ['>'] then some name else none
      | none => none
    | _ => none
  | _ => none

def bracketElement (cs : List Char) : Option (List Char) :=
  match splitName cs with
  | some (name, r) =>
    match skipBlanks r with
    | '[' :: r => if skipBlanks r = [']'] then some name else none
    | _ => none
  | none => none

def trim (spelling : String) : String :=
  String.ofList (Text.trimBlanks spelling.toList)

/-- The name in `Array<name>` or `name[]`; there may be blanks around each part. -/
def arrayElement (spelling : String) : Option String :=
  let cs := Text.trimBlanks spelling.toList
  (genericElement cs <|> bracketElement cs).map String.ofList

end Spelling

inductive ResolutionStep where
  | builtin
  | scalarList
  | enumeration
  | record
  | recordArray
  deriving DecidableEq, Repr

namespace ResolutionStep

def order : List ResolutionStep := [builtin, scalarList, enumeration, record, recordArray]

def listOfScalar? (name : String) : Option Builtin :=
  if name = Builtin.string.name then some .stringList
  else if name = Builtin.number.name then some .numberList
  else none

def claim (scope : Scope) (spelling : String) : ResolutionStep → Option ItemType
  | builtin => if spelling ∈ scope.builtins then some (.element spelling) else none
  | scalarList =>
    (Spelling.arrayElement spelling).bind fun name =>
      (listOfScalar? name).map fun b => .element b.name
  | enumeration => if spelling ∈ scope.enumerations then some (.element spelling) else none
  | record => if spelling ∈ scope.records then some (.element spelling) else none
  | recordArray =>
    (Spelling.arrayElement spelling).bind fun name =>
      if name ∈ scope.records then some (.array name) else none

end ResolutionStep

namespace Scope

/-- The item type a spelling stands for, by the first step that claims it. -/
def item? (scope : Scope) (spelling : String) : Option ItemType :=
  ResolutionStep.order.findSome? (·.claim scope (Spelling.trim spelling))

def items (scope : Scope) : List String → Except String (List ItemType)
  | [] => .ok []
  | spelling :: spellings =>
    match scope.item? spelling with
    | none => .error spelling
    | some item => (scope.items spellings).map (item :: ·)

def slot (first : ItemType) (others : List ItemType) : SlotType :=
  match (others.eraseDups).filter (· ≠ first) with
  | [] => .item first
  | second :: others => .union first second others

def slot? (scope : Scope) (t : TypeExpr) : Except String SlotType :=
  match scope.item? t.first with
  | none => .error t.first
  | some first => (scope.items t.others).map (slot first)

end Scope

def listName (record : String) : String := record ++ "list"

def ItemType.rule : ItemType → Rule
  | element name => .reference name
  | array record => .reference (listName record)

def SlotType.rule : SlotType → Rule
  | item type => type.rule
  | union first second others => .choice first.rule second.rule (others.map ItemType.rule)

end SchemaGrammar
