import SchemaGrammar.Proofs.Language
import SchemaGrammar.Schema.Elements

/-!
# Conformance

Which texts conform to a declaration, said of the declarations alone: no grammar, no element and no
name of an element occurs here. A spelling stands for the first of a built-in kind of text, a list
of scalars, an enumeration, a record and an array of a record; texts of records and arrays are then
the smallest relation that is closed under the rules of `Conforms`.
-/
namespace SchemaGrammar
open Computability

namespace Builtin

variable (chars : Assignment)

def blanks : Language Char := chars "[ \\t\\n]*"

def strings : Language Char := {['"']} * chars "([^\"]*)" * {['"']}

def numbers : Language Char := chars "[0-9]+" * chars "\".\"?" * chars "[0-9]*"

def lists (blanks items : Language Char) : Language Char :=
  {['[']} * blanks * {[']']} +
    {['[']} * blanks * items * ({[',']} * blanks * items)∗ * blanks * {[']']}

def texts : Builtin → Language Char
  | string => strings chars
  | boolean => {"true".toList} + {"false".toList}
  | blank => blanks chars
  | number => numbers chars
  | stringList => lists (blanks chars) (strings chars)
  | numberList => lists (blanks chars) (numbers chars)

end Builtin

inductive Reading where
  | builtin (b : Builtin)
  | enumeration (e : Enumeration)
  | record (r : Record)
  | array (r : Record)

/-- The first thing that a spelling stands for, if there is one. -/
def Schema.reading? (s : Schema) (spelling : String) : Option Reading :=
  let word := Spelling.trim spelling
  let item? := Spelling.arrayElement word
  (Builtin.all.find? (·.name = word)).map .builtin <|>
  (item?.bind ResolutionStep.listOfScalar?).map .builtin <|>
  (s.enumerations.find? (·.name = word)).map .enumeration <|>
  (s.records.find? (·.name = word)).map .record <|>
  item?.bind fun name => (s.records.find? (·.name = name)).map .array

inductive Shape where
  | record (r : Record)
  /-- The properties of a record, the first of them without a comma. -/
  | properties (ps : List Property)
  /-- Properties with a comma before each. -/
  | others (ps : List Property)
  | property (p : Property)
  | type (t : TypeExpr)
  | reading (x : Reading)
  /-- Objects of a record with a comma before each. -/
  | items (r : Record)

/-- The texts that conform to a shape, given those of the character patterns. -/
inductive Conforms (s : Schema) (chars : Assignment) : Shape → List Char → Prop
  | record {r w} : Conforms s chars (.properties r.properties) w →
      Conforms s chars (.record r) ('\x7b' :: w ++ ['\x7d'])
  | noProperties : Conforms s chars (.properties []) []
  | properties {p ps v w} : Conforms s chars (.property p) v → Conforms s chars (.others ps) w →
      Conforms s chars (.properties (p :: ps)) (v ++ w)
  | noOthers : Conforms s chars (.others []) []
  | others {p ps v w} : Conforms s chars (.property p) v → Conforms s chars (.others ps) w →
      Conforms s chars (.others (p :: ps)) (',' :: v ++ w)
  | property {p u v w} : u ∈ Builtin.blanks chars → v ∈ Builtin.blanks chars →
      Conforms s chars (.type p.type) w →
      Conforms s chars (.property p) (u ++ (Text.quote p.name.toList ++ [':']) ++ v ++ w)
  | type {t spelling x w} : spelling ∈ t.spellings → s.reading? spelling = some x →
      Conforms s chars (.reading x) w → Conforms s chars (.type t) w
  | builtin {b w} : w ∈ b.texts chars → Conforms s chars (.reading (.builtin b)) w
  | value {e m v} : m ∈ e.members → m.value = some v →
      Conforms s chars (.reading (.enumeration e)) (Text.quote v.toList)
  | object {r w} : Conforms s chars (.record r) w → Conforms s chars (.reading (.record r)) w
  | emptyArray {r} : Conforms s chars (.reading (.array r)) ['[', ']']
  | array {r u v w} : u ∈ Builtin.blanks chars → Conforms s chars (.record r) v →
      Conforms s chars (.items r) w →
      Conforms s chars (.reading (.array r)) ('[' :: u ++ v ++ w ++ [']'])
  | noItems {r} : Conforms s chars (.items r) []
  | items {r u v w} : u ∈ Builtin.blanks chars → Conforms s chars (.record r) v →
      Conforms s chars (.items r) w → Conforms s chars (.items r) (',' :: u ++ v ++ w)

def Schema.conforming (s : Schema) (chars : Assignment) (x : Shape) : Language Char :=
  {w | Conforms s chars x w}

end SchemaGrammar
