import SchemaGrammar.Files.Fault

/-!
# Programs on files

A program on files ends with a result, or asks for one reading or writing and goes on with the
answer. What a program does is thus known without any files: it is run on a tree of files, or on the
files of the system.
-/
namespace SchemaGrammar.Files

inductive Program (α : Type) where
  | pure (a : α)
  /-- Reads the bytes of a file. -/
  | read (path : Path) (next : Except Fault ByteArray → Program α)
  /-- Writes a text to a file, in a directory that is made if it is missing. -/
  | write (path : Path) (text : String) (next : Except Fault Unit → Program α)

namespace Program

variable {α β : Type}

def bind : Program α → (α → Program β) → Program β
  | pure a, f => f a
  | read path next, f => read path fun answer => (next answer).bind f
  | write path text next, f => write path text fun answer => (next answer).bind f

instance : Monad Program where
  pure := pure
  bind := bind

end Program

def readBytes (path : Path) : ExceptT Fault Program ByteArray := .mk (.read path .pure)

def writeText (path : Path) (text : String) : ExceptT Fault Program Unit :=
  .mk (.write path text .pure)

end SchemaGrammar.Files
