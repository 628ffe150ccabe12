import SchemaGrammar.Text.LetterRanges
import SchemaGrammar.Text.NumberRanges
import SchemaGrammar.Text.UnprintableRanges
import SchemaGrammar.Text.WidthRanges

/-!
# Character classes

The classes of Unicode 14 that decide where a token ends, which characters a message shows, and how
much room they take.
ASCII is decided by comparison; the rest is looked up in ascending ranges.
-/
namespace SchemaGrammar.Text

def inRanges (ranges : List (Nat × Nat)) (n : Nat) : Bool :=
  ranges.any fun range => range.1 ≤ n && n ≤ range.2

/-- Space separators, and the characters whose direction is that of a separator. -/
def isBlank (c : Char) : Bool :=
  let n := c.toNat
  (9 ≤ n && n ≤ 13) || (28 ≤ n && n ≤ 32) || n == 0x85 || n == 0xA0 || n == 0x1680 ||
    (0x2000 ≤ n && n ≤ 0x200A) || n == 0x2028 || n == 0x2029 || n == 0x202F || n == 0x205F ||
    n == 0x3000

/-- The characters with the property `White_Space`: all blanks but the information separators. -/
def isWhiteSpace (c : Char) : Bool :=
  isBlank c && !(28 ≤ c.toNat && c.toNat ≤ 31)

def isLetter (c : Char) : Bool :=
  if c.toNat < 128 then c.isAlpha else inRanges letterRanges c.toNat

/-- A character that stands for a digit, in any script and also raised or circled. -/
def isDigit (c : Char) : Bool :=
  if c.toNat < 128 then c.isDigit else inRanges digitRanges c.toNat

def isLetterOrNumber (c : Char) : Bool :=
  if c.toNat < 128 then c.isAlphanum
  else inRanges letterRanges c.toNat || inRanges numericRanges c.toNat

def isPrintable (c : Char) : Bool :=
  if c.toNat < 128 then 32 ≤ c.toNat && c.toNat < 127
  else !inRanges unprintableRanges c.toNat

def columnWidth (c : Char) : Nat :=
  if inRanges flatRanges c.toNat then 0 else if inRanges wideRanges c.toNat then 2 else 1

def trimBlanks (cs : List Char) : List Char :=
  ((cs.dropWhile isBlank).reverse.dropWhile isBlank).reverse

end SchemaGrammar.Text
