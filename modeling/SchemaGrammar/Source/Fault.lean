import SchemaGrammar.Diagnostic
import SchemaGrammar.Source.Token

/-!
# Faults of schema source

What can be wrong with schema source, and where. The message of a fault names the record, property
or enumeration it concerns.
-/
namespace SchemaGrammar.Source

inductive FaultCause where
  | unterminatedComment
  | unterminatedString
  | invalidEscape
  | unpairedSurrogate
  | expectedToken (kind : TokenKind) (found : String)
  | expectedName (found : String)
  | expectedDeclaration (found : String)
  | unterminatedInterface (name : String)
  | unterminatedEnumeration (name : String)
  | unterminatedParameters
  | unterminatedInitializer
  | extendsClause (record : String)
  | indexSignature (record : String)
  | optionalProperty (owner : String)
  | methodSignature (owner : String)
  | missingType (owner : String)
  | intersectionType (owner : String)
  | objectType (owner : String)
  | literalType (owner : String)
  | parenthesizedType (owner : String)
  deriving DecidableEq, Repr

def FaultCause.message : FaultCause → String
  | unterminatedComment => "Unterminated block comment"
  | unterminatedString => "Unterminated string literal"
  | invalidEscape => "Invalid escape sequence"
  | unpairedSurrogate => "Unpaired surrogate in string literal"
  | expectedToken kind found => "Expected '" ++ kind.text ++ "', got '" ++ found ++ "'"
  | expectedName found => "Expected a name, got '" ++ found ++ "'"
  | expectedDeclaration found =>
    "Unexpected '" ++ found ++ "' - expected a declaration (interface, enum, type, ...)"
  | unterminatedInterface name => "Unterminated interface " ++ name ++ ": expected '\x7d'"
  | unterminatedEnumeration name => "Unterminated enum " ++ name ++ ": expected '\x7d'"
  | unterminatedParameters => "Unterminated type parameter list"
  | unterminatedInitializer => "Unterminated enum member initializer"
  | extendsClause record => record ++ ": 'extends' clauses are not supported"
  | indexSignature record => record ++ ": index signatures are not supported"
  | optionalProperty owner => owner ++ ": optional properties are not supported"
  | methodSignature owner => owner ++ ": method signatures are not supported"
  | missingType owner => owner ++ ": missing type annotation"
  | intersectionType owner => owner ++ ": intersection types are not supported"
  | objectType owner => owner ++ ": inline object types are not supported"
  | literalType owner => owner ++ ": literal types are not supported"
  | parenthesizedType owner => owner ++ ": parenthesized and function types are not supported"

structure Fault where
  cause : FaultCause
  position : Position
  deriving DecidableEq, Repr

def Fault.diagnostic (file : Path) (text : String) (f : Fault) : Diagnostic :=
  ⟨f.cause.message, some (Context.ofText file text f.position.line f.position.column)⟩

end SchemaGrammar.Source
