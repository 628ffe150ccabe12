/-!
# Code points

A code point is the number of a character or one half of a surrogate pair; two halves that follow
one another make one character. A half that is left alone is no character. A text holds two
characters for it: the one right before all halves, which is assigned to nothing and stands before
no other of the last characters there are, and that one of these which tells the half. So the order
of texts is that of their code points.
-/
namespace SchemaGrammar.Text

def charOf? (n : Nat) : Option Char := if h : n.isValidChar then some (Char.ofNatAux n h) else none

def isHighSurrogate (n : Nat) : Bool := 0xD800 ≤ n && n ≤ 0xDBFF

def isLowSurrogate (n : Nat) : Bool := 0xDC00 ≤ n && n ≤ 0xDFFF

def joined (high low : Nat) : Char :=
  Char.ofNat (0x10000 + 0x400 * (high - 0xD800) + (low - 0xDC00))

/-- The characters of code points, each surrogate pair joined; none if a half is left alone. -/
def joinSurrogates : List Nat → Option (List Char)
  | [] => some []
  | [n] => if isHighSurrogate n || isLowSurrogate n then none else some [Char.ofNat n]
  | n :: m :: r =>
    if isHighSurrogate n then
      if isLowSurrogate m then (joinSurrogates r).map (joined n m :: ·) else none
    else if isLowSurrogate n then none
    else (joinSurrogates (m :: r)).map (Char.ofNat n :: ·)

def joinPairs : List Nat → List Nat
  | [] => []
  | [n] => [n]
  | n :: m :: r =>
    if isHighSurrogate n && isLowSurrogate m then (joined n m).toNat :: joinPairs r
    else n :: joinPairs (m :: r)

/-! ## Halves in texts -/

def isHalf (n : Nat) : Bool := isHighSurrogate n || isLowSurrogate n

/-- The character in front of one that tells a half. -/
def halfMark : Char := '\ud7ff'

/-- How far the characters that tell halves come behind the halves. -/
def halfDistance : Nat := 0x102000

def tellsHalf (c : Char) : Bool := 0xD800 + halfDistance ≤ c.toNat

def held (n : Nat) : List Char :=
  if isHalf n then [halfMark, Char.ofNat (n + halfDistance)] else [Char.ofNat n]

def hold (ns : List Nat) : List Char := ns.flatMap held

def codePoints : List Char → List Nat
  | [] => []
  | [c] => [c.toNat]
  | c :: d :: r =>
    if c = halfMark && tellsHalf d then (d.toNat - halfDistance) :: codePoints r
    else c.toNat :: codePoints (d :: r)

/-- Whether a text holds half of a surrogate pair, so that it cannot be encoded. -/
def holdsHalf (cs : List Char) : Bool := (codePoints cs).any isHalf

end SchemaGrammar.Text
