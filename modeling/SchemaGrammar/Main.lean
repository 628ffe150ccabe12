import SchemaGrammar.Command.Ending

/-!
# The command line

Runs the command of the line on the files of the system.
-/
namespace SchemaGrammar.Files

def Fault.ofNumber? (number : UInt32) : Option Fault :=
  [noSuchFile, fileExists, notADirectory, isADirectory].find? (·.number = number.toNat)

def Fault.ofSystem? : IO.Error → Option Fault
  | .noFileOrDirectory _ number _ => ofNumber? number
  | .alreadyExists _ number _ => ofNumber? number
  | .inappropriateType _ number _ => ofNumber? number
  | .otherError number _ => ofNumber? number
  | _ => none

/-- The answer of the system to one question; errors that are no faults of files go on. -/
def answer {α : Type} (question : IO α) : IO (Except Fault α) :=
  try
    return .ok (← question)
  catch e =>
    match Fault.ofSystem? e with
    | some f => return .error f
    | none => throw e

def Program.perform {α : Type} : Program α → IO α
  | .pure a => return a
  | .read path next => do
    (next (← answer (IO.FS.readBinFile path.text))).perform
  | .write path text next => do
    let write : IO Unit := do
      IO.FS.createDirAll path.parent.text
      IO.FS.writeFile path.text text
    (next (← answer write)).perform

end SchemaGrammar.Files

open SchemaGrammar in
def main (line : List String) : IO UInt32 := do
  let ending ←
    match Command.ofLine? line with
    | none => pure Command.Ending.misused
    | some command =>
      let directory := Path.ofString (toString (← IO.currentDir))
      Command.Ending.ofResult <$> (command.run directory).run.perform
  (← IO.getStdout).putStr ending.shown
  (← IO.getStderr).putStr ending.complaint
  return ending.status.toUInt32
