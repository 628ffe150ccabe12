/-!
# Lines of a text

Lines are counted from one and end at a line feed only; a text with `n` line feeds has `n + 1`
lines.
-/
namespace SchemaGrammar.Text

/-- The line after `n` line feeds, if the text has so many. -/
def lineAfter : Nat → List Char → Option (List Char)
  | 0, cs => some (cs.takeWhile (· ≠ '\n'))
  | n + 1, cs =>
    match cs.dropWhile (· ≠ '\n') with
    | [] => none
    | _ :: r => lineAfter n r

def line? (text : String) (number : Int) : Option String :=
  if number < 1 then none
  else (lineAfter (number - 1).toNat text.toList).map String.ofList

/-- The text with each carriage return, and each pair of one with a line feed, made a line feed. -/
def unifyLineEnds : List Char → List Char
  | [] => []
  | '\r' :: '\n' :: r => '\n' :: unifyLineEnds r
  | c :: r => (if c = '\r' then '\n' else c) :: unifyLineEnds r

/-- The text of a file: its bytes as UTF-8, with uniform line ends. -/
def ofBytes? (bytes : ByteArray) : Option String :=
  (String.fromUTF8? bytes).map fun s => String.ofList (unifyLineEnds s.toList)

end SchemaGrammar.Text
