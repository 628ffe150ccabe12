import SchemaGrammar.Grammar

/-!
# Built-in elements

The productions every grammar ends with: JSON strings, booleans, blanks and numbers, and lists of
strings and of numbers. Strings hold no escaped quotes; numbers have no sign and no exponent.
-/
namespace SchemaGrammar

inductive Builtin where
  | string
  | boolean
  | blank
  | number
  | stringList
  | numberList
  deriving DecidableEq, Repr

namespace Builtin

def all : List Builtin := [string, boolean, blank, number, stringList, numberList]

def name : Builtin → String
  | string => "string"
  | boolean => "boolean"
  | blank => "ws"
  | number => "number"
  | stringList => "stringlist"
  | numberList => "numberlist"

def reference (b : Builtin) : Rule := .reference b.name

def emptyList : Rule :=
  .sequence [.literal "[", blank.reference, .literal "]"]

def listOf (item : Builtin) : Rule :=
  .sequence [.literal "[", blank.reference, item.reference,
    .star [.literal ",", blank.reference, item.reference], blank.reference, .literal "]"]

def element (b : Builtin) : Element :=
  match b with
  | string => ⟨b.name, .sequence [.literal "\"", .charClass "([^\"]*)", .literal "\""], []⟩
  | boolean => ⟨b.name, .literal "true", [.literal "false"]⟩
  | blank => ⟨b.name, .charClass "[ \\t\\n]*", []⟩
  | number =>
    ⟨b.name, .sequence [.charClass "[0-9]+", .charClass "\".\"?", .charClass "[0-9]*"], []⟩
  | stringList => ⟨b.name, emptyList, [listOf string]⟩
  | numberList => ⟨b.name, emptyList, [listOf number]⟩

def elements : List Element := all.map element

def names : List String := all.map name

end Builtin

end SchemaGrammar
