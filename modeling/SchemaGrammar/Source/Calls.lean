import SchemaGrammar.Source.Tokens

/-!
# Calls on a reader

A reader of a text can also be driven call by call: over one character, over the blanks and comments
ahead, over a string, a number, a word or an escape that is taken to begin where the reader stands,
or over all tokens that are left. A call that finds a fault leaves the reader where it stopped.
-/
namespace SchemaGrammar.Source

inductive Call where
  | advance
  | trivia
  /-- A string, whose quote is the character ahead, whatever it is. -/
  | string
  /-- An escape from the character after its backslash on; faults are reported at a given place. -/
  | codePoint (place : Position)
  | number
  | identifier
  | tokens
  deriving DecidableEq, Repr

inductive Reply where
  | nothing
  | text (value : String)
  | codePoint (n : Nat)
  /-- The tokens that were read so far, in all calls. -/
  | tokens (ts : List Token)
  deriving DecidableEq, Repr

namespace TextReader

def scan {α : Type} (r : TextReader) (scan : List Char → Scan α) (reply : α → Reply) :
    Except Fault Reply × TextReader :=
  let (outcome, cursor) := r.cursor.take scan
  (outcome.map reply, { r with cursor })

def call (r : TextReader) : Call → Except Fault Reply × TextReader
  | .advance => (.ok .nothing, { r with cursor := r.cursor.advance })
  | .trivia => r.scan Source.trivia fun _ => .nothing
  | .string => r.scan stringLiteral .text
  | .codePoint place =>
    let (outcome, r) := r.scan Source.codePoint .codePoint
    (outcome.mapError fun f => ⟨f.cause, place⟩, r)
  | .number => r.scan (word isNumberPart) .text
  | .identifier => r.scan (word isWordPart) .text
  | .tokens =>
    let (outcome, r) := r.readTokens
    (outcome.map fun _ => .tokens r.tokens, r)

/-- The reader after calls, one after another, whether or not they find faults. -/
def after (r : TextReader) (calls : List Call) : TextReader :=
  calls.foldl (fun r call => (r.call call).2) r

end TextReader

end SchemaGrammar.Source
