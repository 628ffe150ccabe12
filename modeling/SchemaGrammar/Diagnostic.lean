import SchemaGrammar.Path
import SchemaGrammar.Text.Lines

/-!
# Diagnostics

A message, and where in which file it arose. When the line at fault is known it is shown under the
place, with a caret under the column.
-/
namespace SchemaGrammar

/-- A place in a file, as declarations record it. -/
structure Location where
  file : String
  line : Int
  column : Int
  deriving DecidableEq, Repr

def Location.text (l : Location) : String :=
  s!"{l.file}:{l.line}:{l.column}"

/-- Where an error arose, and the text of its line if that is known. -/
structure Context where
  file : Path
  line : Int
  column : Int
  sourceLine : Option String
  deriving DecidableEq, Repr

namespace Context

def ofLocation (l : Location) : Context :=
  ⟨Path.ofString l.file, l.line, l.column, none⟩

/-- A place in a text; an empty text has no line to show. -/
def ofText (file : Path) (text : String) (line column : Int) : Context :=
  ⟨file, line, column, if text = "" then none else Text.line? text line⟩

def text (c : Context) : String :=
  let place := s!"{c.file}:{c.line}:{c.column}"
  match c.sourceLine with
  | none => place
  | some l => place ++ "\n    " ++ l ++ "\n    " ++
      String.ofList (List.replicate (c.column - 1).toNat ' ') ++ "^"

end Context

structure Diagnostic where
  message : String
  context : Option Context
  deriving DecidableEq, Repr

def Diagnostic.text (d : Diagnostic) : String :=
  match d.context with
  | none => d.message
  | some c => c.text ++ "\n" ++ d.message

end SchemaGrammar
