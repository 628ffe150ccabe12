import SchemaGrammar.Document.Check
import SchemaGrammar.Schema

/-!
# Schemas as documents

A schema document is an object with the list of declarations, or that list alone. A declaration is
an object whose `kind` says which it is. The type of a property is an object with the spellings,
their list alone, or one text with bars between them.
-/
namespace SchemaGrammar.Document

/-- The spellings in a text: its parts between bars without blanks around them, the empty left out.
-/
def spellingsOfText (text : String) : List String :=
  (((text.toList.splitOn '|').map Text.trimBlanks).filter (· ≠ [])).map String.ofList

def typeOfSpellings : List String → Check TypeExpr
  | [] => .complain .tooShort
  | first :: others => .valid ⟨first, others⟩

def typeExpr : Value → Check TypeExpr
  | .string s => (typeOfSpellings (spellingsOfText s)).under (.field "spellings")
  | .array vs => ((items string vs).andThen typeOfSpellings).under (.field "spellings")
  | .object fields => required fields "spellings" fun v => (list string v).andThen typeOfSpellings
  | _ => .complain .notModel

def location (v : Value) : Check Location :=
  (fieldsOf v).andThen fun fields =>
    Location.mk <$> required fields "file" string <*> required fields "line" integer <*>
      required fields "column" integer

def locationField (fields : List (String × Value)) : Check (Option Location) :=
  optional fields "location" none (nullable location)

def property (v : Value) : Check Property :=
  (fieldsOf v).andThen fun fields =>
    Property.mk <$> required fields "name" string <*> required fields "type" typeExpr <*>
      locationField fields

def kindField (fields : List (String × Value)) (kind : String) : Check Unit :=
  optional fields "kind" () (literal kind)

def record (v : Value) : Check Record :=
  (fieldsOf v).andThen fun fields =>
    (fun _ name properties parameters location => ⟨name, properties, parameters, location⟩) <$>
      kindField fields "record" <*> required fields "name" string <*>
      optional fields "properties" [] (list property) <*>
      optional fields "type_parameters" [] (list string) <*> locationField fields

def member (v : Value) : Check Member :=
  (fieldsOf v).andThen fun fields =>
    Member.mk <$> required fields "name" string <*>
      optional fields "value" none (nullable string) <*>
      optional fields "initializer" none (nullable string)

def enumeration (v : Value) : Check Enumeration :=
  (fieldsOf v).andThen fun fields =>
    (fun _ name members location => ⟨name, members, location⟩) <$>
      kindField fields "enum" <*> required fields "name" string <*>
      optional fields "members" [] (list member) <*> locationField fields

def otherDeclaration (v : Value) : Check OtherDeclaration :=
  (fieldsOf v).andThen fun fields =>
    (fun _ kind name location => ⟨kind, name, location⟩) <$>
      kindField fields "other" <*> required fields "declaration_kind" string <*>
      optional fields "name" none (nullable string) <*> locationField fields

def declaration : Value → Check Declaration
  | .object fields =>
    match field? "kind" fields with
    | none => .complain .tagMissing
    | some ⟨.string "record", _⟩ => ((record (.object fields)).map .record).under (.field "record")
    | some ⟨.string "enum", _⟩ =>
      ((enumeration (.object fields)).map .enumeration).under (.field "enum")
    | some ⟨.string "other", _⟩ =>
      ((otherDeclaration (.object fields)).map .other).under (.field "other")
    | some _ => .complain .tagUnknown
  | _ => .complain .notTagged

def schema : Value → Check Schema
  | .array vs => ((items declaration vs).under (.field "declarations")).map Schema.mk
  | v =>
    (fieldsOf v).andThen fun fields =>
      (optional fields "declarations" [] (list declaration)).map Schema.mk

/-! ## Writing -/

def ofOptional {α : Type} (write : α → Value) : Option α → Value
  | none => .null
  | some a => write a

def ofLocation (l : Location) : Value :=
  .object [("file", .string l.file), ("line", .int l.line), ("column", .int l.column)]

inductive TypeForm where
  /-- An object with the spellings. -/
  | object
  /-- The list of the spellings. -/
  | list
  /-- One text, with bars between the spellings. -/
  | text
  deriving DecidableEq, Repr

def ofTypeExprIn (form : TypeForm) (t : TypeExpr) : Value :=
  match form with
  | .object => .object [("spellings", .array (t.spellings.map .string))]
  | .list => .array (t.spellings.map .string)
  | .text => .string t.text

def ofPropertyIn (form : TypeForm) (p : Property) : Value :=
  .object [("name", .string p.name), ("type", ofTypeExprIn form p.type),
    ("location", ofOptional ofLocation p.location)]

def ofRecordIn (form : TypeForm) (r : Record) : Value :=
  .object [("kind", .string "record"), ("name", .string r.name),
    ("properties", .array (r.properties.map (ofPropertyIn form))),
    ("type_parameters", .array (r.typeParameters.map .string)),
    ("location", ofOptional ofLocation r.location)]

def ofMember (m : Member) : Value :=
  .object [("name", .string m.name), ("value", ofOptional .string m.value),
    ("initializer", ofOptional .string m.initializer)]

def ofEnumeration (e : Enumeration) : Value :=
  .object [("kind", .string "enum"), ("name", .string e.name),
    ("members", .array (e.members.map ofMember)), ("location", ofOptional ofLocation e.location)]

def ofOtherDeclaration (o : OtherDeclaration) : Value :=
  .object [("kind", .string "other"), ("declaration_kind", .string o.kind),
    ("name", ofOptional .string o.name), ("location", ofOptional ofLocation o.location)]

def ofDeclarationIn (form : TypeForm) : Declaration → Value
  | .record r => ofRecordIn form r
  | .enumeration e => ofEnumeration e
  | .other o => ofOtherDeclaration o

def ofDeclarationsIn (form : TypeForm) (ds : List Declaration) : Value :=
  .array (ds.map (ofDeclarationIn form))

def ofSchemaIn (form : TypeForm) (s : Schema) : Value :=
  .object [("declarations", ofDeclarationsIn form s.declarations)]

/-! The full form writes types as objects. -/

def ofTypeExpr (t : TypeExpr) : Value := ofTypeExprIn .object t

def ofProperty (p : Property) : Value := ofPropertyIn .object p

def ofRecord (r : Record) : Value := ofRecordIn .object r

def ofDeclaration (d : Declaration) : Value := ofDeclarationIn .object d

def ofSchema (s : Schema) : Value := ofSchemaIn .object s

end SchemaGrammar.Document
