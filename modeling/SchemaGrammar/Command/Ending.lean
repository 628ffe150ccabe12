import SchemaGrammar.Command.Run
import SchemaGrammar.Files.Tree

/-!
# How commands end

A command that comes to its end shows its text and ends with status 0. One that stops shows nothing,
says why it stopped where errors are said, and ends with status 1.
-/
namespace SchemaGrammar.Command

structure Ending where
  status : Nat
  /-- What is put on the output. -/
  shown : String
  /-- What is put where errors are said. -/
  complaint : String
  deriving DecidableEq, Repr

namespace Ending

def ofResult : Except Stop String → Ending
  | .ok shown => ⟨0, shown, ""⟩
  | .error stop => ⟨1, "", stop.text⟩

def misused : Ending := ⟨2, "", usage⟩

end Ending

def onTree (directory : Path) (command : Command) (t : Files.Tree) : Ending × Files.Tree :=
  let (result, after) := (command.run directory).run.run t
  (.ofResult result, after)

end SchemaGrammar.Command
