import SchemaGrammar.Path
import SchemaGrammar.Text.Shown

/-!
# Faults of files

Why the system refuses to read or write a file, with the number and the text it gives.
-/
namespace SchemaGrammar.Files

inductive Fault where
  | noSuchFile
  | fileExists
  | notADirectory
  | isADirectory
  deriving DecidableEq, Repr

namespace Fault

def number : Fault → Nat
  | noSuchFile => 2
  | fileExists => 17
  | notADirectory => 20
  | isADirectory => 21

def reason : Fault → String
  | noSuchFile => "No such file or directory"
  | fileExists => "File exists"
  | notADirectory => "Not a directory"
  | isADirectory => "Is a directory"

def text (f : Fault) (path : Path) : String :=
  s!"[Errno {f.number}] {f.reason}: " ++ Text.shown path.text

end Fault

end SchemaGrammar.Files
