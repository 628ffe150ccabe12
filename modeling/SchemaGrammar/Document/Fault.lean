import SchemaGrammar.Text.Digits

/-!
# Faults of documents

Why the text of a document gives no value. Only a text that breaks the rules of its format is
malformed; a well-formed text may still write something that there is none of.
-/
namespace SchemaGrammar.Document

inductive Fault where
  | malformed
  /-- A number, a day or a character that does not exist, or an integer of too many digits. -/
  | noSuchValue
  /-- The number of a character is out of all bounds. -/
  | tooGreat
  /-- A text that is tagged as a truth value but is none. -/
  | notBoolean
  /-- A text that is tagged as a day or time but is none. -/
  | notMoment
  deriving DecidableEq, Repr

def Fault.text : Fault → String
  | malformed => "the text is malformed"
  | noSuchValue => "a value does not exist"
  | tooGreat => "a number is too great"
  | notBoolean => "a value is no truth value"
  | notMoment => "a value is no day or time"

def orMalformed {α : Type} (found : Option α) : Except Fault α :=
  match found with
  | some a => .ok a
  | none => .error .malformed

/-- The greatest number of decimal digits that an integer may be written with. -/
def greatestDigits : Nat := 4300

def decimalInteger (negative : Bool) (digits : List Char) : Except Fault Int :=
  if greatestDigits < digits.length then .error .noSuchValue
  else
    let n : Int := Text.decimalValue digits
    .ok (if negative then -n else n)

end SchemaGrammar.Document
