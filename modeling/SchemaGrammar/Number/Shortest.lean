import SchemaGrammar.Number.Double

/-!
# The shortest text of a double

A double is written with the fewest digits that are read back as the same double, and of several
such with those that are nearest to it.
-/
namespace SchemaGrammar.Double

/-- The power of ten that is the least above `n / d`, for positive numbers. -/
def decimalPoint (n d : Nat) : Int :=
  if d ≤ n then (Nat.toDigits 10 (n / d)).length
  else 1 - ((Nat.toDigits 10 (d / n)).length : Int)

/-- The number of so many digits that is nearest to a positive double and is read back as it. -/
def digitsOfCount? (significand : Nat) (exponent : Int) (count : Nat) : Option (Nat × Int) :=
  let (n, d) := ratio significand exponent
  let unit := decimalPoint n d - count
  let (a, b) :=
    if 0 ≤ unit then (n, d * Nat.pow 10 unit.toNat) else (n * Nat.pow 10 (-unit).toNat, d)
  let low := a / b
  let reads (digits : Nat) : Bool :=
    ofDecimal false digits unit = finite false significand exponent
  match reads low, reads (low + 1) with
  | false, false => none
  | true, false => some (low, unit)
  | false, true => some (low + 1, unit)
  | true, true => some (nearestInteger a b, unit)

/-- The digits of a positive double and the power of ten of the last of them. -/
def shortest (significand : Nat) (exponent : Int) : Nat × Int :=
  ((List.range 17).findSome? fun n => digitsOfCount? significand exponent (n + 1)).getD (0, 0)

def dropZeros (digits : List Char) : List Char × Nat :=
  let kept := (digits.reverse.dropWhile (· = '0')).reverse
  (kept, digits.length - kept.length)

/-- Digits with a point after so many of them; there are always digits on both sides of it. -/
def positional (digits : List Char) (point : Int) : String :=
  let before := point.toNat
  if point ≤ 0 then "0." ++ String.ofList (List.replicate (-point).toNat '0' ++ digits)
  else if digits.length ≤ before then
    String.ofList (digits ++ List.replicate (before - digits.length) '0') ++ ".0"
  else String.ofList (digits.take before) ++ "." ++ String.ofList (digits.drop before)

/-- Digits with a point after the first of them, if there are more, and an exponent of at least two
digits. -/
def scientific (digits : List Char) (point : Int) : String :=
  let power := point - 1
  let powerText := toString power.natAbs
  String.ofList (digits.take 1) ++
    (if digits.length = 1 then "" else "." ++ String.ofList (digits.drop 1)) ++
    "e" ++ (if power < 0 then "-" else "+") ++ (if powerText.length < 2 then "0" else "") ++
    powerText

/-- The text of a double: positional from `0.0001` up to sixteen digits before the point. -/
def text : Double → String
  | undefined => "nan"
  | infinite negative => if negative then "-inf" else "inf"
  | finite negative significand exponent =>
    let sign := if negative then "-" else ""
    if significand = 0 then sign ++ "0.0"
    else
      let (number, unit) := shortest significand exponent
      let (digits, zeros) := dropZeros (toString number).toList
      let point : Int := unit + zeros + digits.length
      let form := if -4 < point && point ≤ 16 then positional else scientific
      sign ++ form digits point

end SchemaGrammar.Double
