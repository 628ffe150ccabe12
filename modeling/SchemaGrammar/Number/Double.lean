/-!
# Numbers of double precision

A double is a number of at most 53 binary digits with a binary exponent between two bounds, an
infinity, or no number at all. Ratios and decimals are rounded to the nearest double, and of two
that are equally near to the one with an even significand.
-/
namespace SchemaGrammar

inductive Double where
  /-- `significand · 2 ^ exponent` with a sign, which zero has too. -/
  | finite (negative : Bool) (significand : Nat) (exponent : Int)
  | infinite (negative : Bool)
  | undefined
  deriving DecidableEq, Repr

namespace Double

def leastExponent : Int := -1074

def greatestExponent : Int := 971

def zero (negative : Bool) : Double := finite negative 0 leastExponent

/-- The integer nearest to `n / d`; a half goes to the even neighbour. -/
def nearestInteger (n d : Nat) : Nat :=
  let q := n / d
  let r := n % d
  if d < 2 * r || (2 * r = d && q % 2 = 1) then q + 1 else q

/-- The numerator and denominator of `n / d` divided by `2 ^ e`. -/
def scaled (n d : Nat) (e : Int) : Nat × Nat :=
  if 0 ≤ e then (n, d * Nat.pow 2 e.toNat) else (n * Nat.pow 2 (-e).toNat, d)

/-- The exponent of the greatest power of two that is at most `n / d`, for positive numbers. -/
def floorLog (n d : Nat) : Int :=
  let k : Int := (n.log2 : Int) - d.log2
  let (a, b) := scaled n d k
  if a < b then k - 1 else k

def ofRatio (negative : Bool) (n d : Nat) : Double :=
  if n = 0 then zero negative
  else
    let e := max (floorLog n d - 52) leastExponent
    let (a, b) := scaled n d e
    let s := nearestInteger a b
    let (s, e) := if s = Nat.pow 2 53 then (Nat.pow 2 52, e + 1) else (s, e)
    if greatestExponent < e then infinite negative else finite negative s e

/-- The double nearest to `digits · 10 ^ exponent`, with a sign. Numbers that are infinite or zero
by their size alone are not computed. -/
def ofDecimal (negative : Bool) (digits : Nat) (exponent : Int) : Double :=
  let size : Int := exponent + (Nat.toDigits 10 digits).length
  if digits = 0 || size < -330 then zero negative
  else if 310 < size then infinite negative
  else if 0 ≤ exponent then ofRatio negative (digits * Nat.pow 10 exponent.toNat) 1
  else ofRatio negative digits (Nat.pow 10 (-exponent).toNat)

def ratio (significand : Nat) (exponent : Int) : Nat × Nat :=
  if 0 ≤ exponent then (significand * Nat.pow 2 exponent.toNat, 1)
  else (significand, Nat.pow 2 (-exponent).toNat)

def integer? : Double → Option Int
  | finite negative significand exponent =>
    let (n, d) := ratio significand exponent
    if n % d = 0 then some (if negative then -((n / d : Nat) : Int) else (n / d : Nat)) else none
  | _ => none

def isFinite : Double → Bool
  | finite .. => true
  | _ => false

def neg : Double → Double
  | finite negative significand exponent => finite (!negative) significand exponent
  | infinite negative => infinite (!negative)
  | undefined => undefined

def addMagnitudes : Double → Double → Double
  | finite _ s e, finite _ t f =>
    let (n, d) := ratio s e
    let (m, c) := ratio t f
    ofRatio false (n * c + m * d) (d * c)
  | undefined, _ => undefined
  | _, undefined => undefined
  | _, _ => infinite false

def mulMagnitudes : Double → Double → Double
  | finite _ s e, finite _ t f =>
    let (n, d) := ratio s e
    let (m, c) := ratio t f
    ofRatio false (n * m) (d * c)
  | undefined, _ => undefined
  | _, undefined => undefined
  | _, _ => infinite false

end Double

end SchemaGrammar
