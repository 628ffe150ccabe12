import SchemaGrammar.Text.CharClass
import SchemaGrammar.Text.CodePoint
import SchemaGrammar.Text.Quoted

/-!
# Strings shown in messages

A message shows a string between single quotes, or between double quotes if it holds a single quote
and no double one. The quote in use, the backslash, line ends, tabs and characters without a shape
are escaped, and so are halves of surrogate pairs, so the shown text is one printable line.
-/
namespace SchemaGrammar.Text

def shownQuote (cs : List Char) : Char :=
  if cs.contains '\'' && !cs.contains '"' then '"' else '\''

def shownChar (q c : Char) : List Char :=
  if c = q || c = '\\' then ['\\', c]
  else if c = '\n' then ['\\', 'n']
  else if c = '\r' then ['\\', 'r']
  else if c = '\t' then ['\\', 't']
  else if isPrintable c then [c]
  else if c.toNat < 0x100 then '\\' :: 'x' :: hexDigits 2 c.toNat
  else if c.toNat < 0x10000 then '\\' :: 'u' :: hexDigits 4 c.toNat
  else '\\' :: 'U' :: hexDigits 8 c.toNat

def shownHalf (n : Nat) : List Char := '\\' :: 'u' :: hexDigits 4 n

def shownCodePoint (q : Char) (n : Nat) : List Char :=
  if isHalf n then shownHalf n else shownChar q (Char.ofNat n)

/-- A string as a message shows it. -/
def shown (s : String) : String :=
  let q := shownQuote s.toList
  String.ofList (q :: (codePoints s.toList).flatMap (shownCodePoint q) ++ [q])

/-- A text in which nothing but halves of surrogate pairs is escaped. -/
def withoutHalves (s : String) : String :=
  String.ofList ((codePoints s.toList).flatMap fun n =>
    if isHalf n then shownHalf n else [Char.ofNat n])

def shownList (items : List String) : String :=
  "[" ++ ", ".intercalate items ++ "]"

end SchemaGrammar.Text
