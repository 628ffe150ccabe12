/-!
# Tokens

Schema source is made of names, strings, numbers, keywords, punctuation marks and other single
characters. A token carries its text, with the escapes of a string decoded, and where it starts.
-/
namespace SchemaGrammar.Source

/-- A line and a column, both counted from one. -/
structure Position where
  line : Nat
  column : Nat
  deriving DecidableEq, Repr, Inhabited

namespace Position

def start : Position := ⟨1, 1⟩

def step (p : Position) (c : Char) : Position :=
  if c = '\n' then ⟨p.line + 1, 1⟩ else ⟨p.line, p.column + 1⟩

end Position

inductive Keyword where
  | interfaceWord
  | enumWord
  | exportWord
  | declareWord
  | defaultWord
  | extendsWord
  | readonlyWord
  | typeWord
  | classWord
  | abstractWord
  | functionWord
  | constWord
  | letWord
  | varWord
  | namespaceWord
  | moduleWord
  | importWord
  deriving DecidableEq, Repr

namespace Keyword

def all : List Keyword :=
  [interfaceWord, enumWord, exportWord, declareWord, defaultWord, extendsWord, readonlyWord,
    typeWord, classWord, abstractWord, functionWord, constWord, letWord, varWord, namespaceWord,
    moduleWord, importWord]

def text : Keyword → String
  | interfaceWord => "interface"
  | enumWord => "enum"
  | exportWord => "export"
  | declareWord => "declare"
  | defaultWord => "default"
  | extendsWord => "extends"
  | readonlyWord => "readonly"
  | typeWord => "type"
  | classWord => "class"
  | abstractWord => "abstract"
  | functionWord => "function"
  | constWord => "const"
  | letWord => "let"
  | varWord => "var"
  | namespaceWord => "namespace"
  | moduleWord => "module"
  | importWord => "import"

def ofText? (word : String) : Option Keyword := all.find? (·.text = word)

end Keyword

inductive Mark where
  | openBrace
  | closeBrace
  | openBracket
  | closeBracket
  | openParen
  | closeParen
  | openAngle
  | closeAngle
  | colon
  | semicolon
  | comma
  | bar
  | ampersand
  | equals
  | question
  | dot
  | minus
  deriving DecidableEq, Repr

namespace Mark

def all : List Mark :=
  [openBrace, closeBrace, openBracket, closeBracket, openParen, closeParen, openAngle, closeAngle,
    colon, semicolon, comma, bar, ampersand, equals, question, dot, minus]

def char : Mark → Char
  | openBrace => '\x7b'
  | closeBrace => '\x7d'
  | openBracket => '['
  | closeBracket => ']'
  | openParen => '('
  | closeParen => ')'
  | openAngle => '<'
  | closeAngle => '>'
  | colon => ':'
  | semicolon => ';'
  | comma => ','
  | bar => '|'
  | ampersand => '&'
  | equals => '='
  | question => '?'
  | dot => '.'
  | minus => '-'

def ofChar? (c : Char) : Option Mark := all.find? (·.char = c)

def opens (m : Mark) : Bool := m = openBrace || m = openParen || m = openBracket

def closes (m : Mark) : Bool := m = closeBrace || m = closeParen || m = closeBracket

end Mark

inductive TokenKind where
  | identifier
  | string
  | number
  | keyword (word : Keyword)
  | mark (m : Mark)
  /-- Any other single character. -/
  | symbol
  /-- The end of the text. -/
  | endMark
  deriving DecidableEq, Repr

namespace TokenKind

def text : TokenKind → String
  | identifier => "IDENTIFIER"
  | string => "STRING"
  | number => "NUMBER"
  | keyword word => word.text
  | mark m => m.char.toString
  | symbol => "SYMBOL"
  | endMark => "EOF"

/-- Whether tokens of the kind can name something: identifiers and keywords. -/
def isName : TokenKind → Bool
  | identifier => true
  | keyword _ => true
  | _ => false

def opens : TokenKind → Bool
  | mark m => m.opens
  | _ => false

def closes : TokenKind → Bool
  | mark m => m.closes
  | _ => false

end TokenKind

structure Token where
  kind : TokenKind
  value : String
  position : Position
  deriving DecidableEq, Repr

namespace Token

def atEnd (p : Position) : Token := ⟨.endMark, "", p⟩

/-- How messages show a token: by its text, or by its kind if it has no text. -/
def shown (t : Token) : String := if t.value = "" then t.kind.text else t.value

end Token

end SchemaGrammar.Source
