/-!
# Digits

Numbers as their digits write them. Digits above nine are letters: small ones are written, and both
small and capital ones are read.
-/
namespace SchemaGrammar.Text

def hexDigit (n : Nat) : Char :=
  if n < 10 then Char.ofNat (48 + n) else Char.ofNat (87 + n)

/-- The last `width` hexadecimal digits of a number. -/
def hexDigits : Nat → Nat → List Char
  | 0, _ => []
  | width + 1, n => hexDigits width (n / 16) ++ [hexDigit (n % 16)]

def isHexDigit (c : Char) : Bool :=
  c.isDigit || ('a' ≤ c && c ≤ 'f') || ('A' ≤ c && c ≤ 'F')

def digitValue (c : Char) : Nat :=
  if c.isDigit then c.toNat - 48 else if 'a' ≤ c then c.toNat - 87 else c.toNat - 55

def isDigitIn (base : Nat) (c : Char) : Bool := isHexDigit c && digitValue c < base

def valueInBase (base : Nat) (digits : List Char) : Nat :=
  digits.foldl (fun n c => base * n + digitValue c) 0

def hexValue (digits : List Char) : Nat := valueInBase 16 digits

def decimalValue (digits : List Char) : Nat := valueInBase 10 digits

end SchemaGrammar.Text
