import SchemaGrammar.Document.Fault
import SchemaGrammar.Document.Value
import SchemaGrammar.Document.Yaml.Placed

/-!
# What scalars stand for

A scalar has a kind, which its tag names. A plain scalar without a tag is of the kind that its text
looks like: a truth value, a number, a day or time, nothing, or else a string. A text may look like
a number or a day that there is none of.
-/
namespace SchemaGrammar.Document.Yaml

inductive Kind where
  | null
  | boolean
  | integer
  | number
  | moment
  | string
  /-- A key that takes over the fields of other mappings. -/
  | merge
  /-- A key for a value by default. -/
  | default
  | sequence
  | mapping
  | unknown
  deriving DecidableEq, Repr

def ownStem : String := "tag:yaml.org,2002:"

def Kind.ofTag (tag : String) : Kind :=
  let own : List (String × Kind) :=
    [("null", null), ("bool", boolean), ("int", integer), ("float", number), ("timestamp", moment),
      ("str", string), ("merge", merge), ("value", default), ("seq", sequence), ("map", mapping)]
  match own.find? (ownStem ++ ·.1 = tag) with
  | some (_, kind) => kind
  | none => unknown

/-! ## Numbers -/

def isDigitOrLine (c : Char) : Bool := c.isDigit || c = '_'

def splitSign (cs : List Char) : Bool × List Char :=
  match cs with
  | '-' :: r => (true, r)
  | '+' :: r => (false, r)
  | r => (false, r)

def splitColons : List Char → List Char × List (List Char)
  | [] => ([], [])
  | c :: r =>
    let (first, others) := splitColons r
    if c = ':' then ([], first :: others) else (c :: first, others)

/-- A number of minutes or seconds: one digit, or two of which the first is below six. -/
def isSixtieth (cs : List Char) : Bool :=
  match cs with
  | [d] => d.isDigit
  | [t, d] => '0' ≤ t && t ≤ '5' && d.isDigit
  | _ => false

def looksNatural (cs : List Char) : Bool :=
  let all (p : Char → Bool) (r : List Char) : Bool := r ≠ [] && r.all fun c => p c || c = '_'
  match cs with
  | ['0'] => true
  | '0' :: 'b' :: r => all (Text.isDigitIn 2) r
  | '0' :: 'x' :: r => all (Text.isDigitIn 16) r
  | '0' :: r => all (Text.isDigitIn 8) r
  | c :: r =>
    let (first, others) := splitColons r
    c.isDigit && first.all isDigitOrLine && others.all isSixtieth
  | [] => false

def looksInteger (cs : List Char) : Bool := looksNatural (splitSign cs).2

def isExponent (cs : List Char) : Bool :=
  match cs with
  | [] => true
  | e :: s :: ds => (e = 'e' || e = 'E') && (s = '-' || s = '+') && ds ≠ [] && ds.all Char.isDigit
  | [_] => false

def looksNumber (cs : List Char) : Bool :=
  let (_, r) := splitSign cs
  let before := r.takeWhile (· ≠ '.')
  match r.dropWhile (· ≠ '.') with
  | '.' :: after =>
    let fraction := after.takeWhile isDigitOrLine
    let tail := after.dropWhile isDigitOrLine
    match before with
    | [] =>
      ["inf", "Inf", "INF"].contains (String.ofList after) ||
        (r = cs && (["nan", "NaN", "NAN"].contains (String.ofList after) ||
          (fraction.head?.any Char.isDigit && isExponent tail)))
    | c :: _ =>
      let (first, others) := splitColons before
      c.isDigit && first.all isDigitOrLine &&
        if others = [] then isExponent tail else others.all isSixtieth && tail = []
  | _ => false

def withoutBaseMark (base : Nat) (cs : List Char) : List Char :=
  match cs with
  | '0' :: c :: r =>
    if [('b', 2), ('o', 8), ('x', 16)].contains (c.toLower, base) then r else cs
  | _ => cs

/-- The integer that digits of a base stand for, perhaps with another sign in front. Blanks around
them do not count. -/
def digitsIn (base : Nat) (negative : Bool) (cs : List Char) : Except Fault Int :=
  let (minus, r) := splitSign (Text.trimBlanks cs)
  let ds := withoutBaseMark base r
  let negative := negative != minus
  if ds ≠ [] && ds.all (Text.isDigitIn base) then
    if base = 10 then decimalInteger negative ds
    else
      let n : Int := Text.valueInBase base ds
      .ok (if negative then -n else n)
  else .error .noSuchValue

/-- The integer that a text spells. Underscores do not count, and parts between colons are digits of
base sixty. -/
def integerValue (cs : List Char) : Except Fault Int :=
  match splitSign (cs.filter (· ≠ '_')) with
  | (_, ['0']) => .ok 0
  | (negative, '0' :: 'b' :: r) => digitsIn 2 negative r
  | (negative, '0' :: 'x' :: r) => digitsIn 16 negative r
  | (negative, '0' :: r) => digitsIn 8 negative ('0' :: r)
  | (negative, r) =>
    match splitColons r with
    | (first, []) => digitsIn 10 negative first
    | (first, others) => do
      let parts ← (first :: others).mapM (digitsIn 10 false)
      let n := parts.foldl (fun n part => 60 * n + part) 0
      return if negative then -n else n

def decimalValue (cs : List Char) : Except Fault Double :=
  let cs := Text.trimBlanks cs
  let whole := cs.takeWhile Char.isDigit
  let r := cs.dropWhile Char.isDigit
  let (fraction, r) :=
    match r with
    | '.' :: r => (r.takeWhile Char.isDigit, r.dropWhile Char.isDigit)
    | r => ([], r)
  let (negative, power) := splitSign r.tail
  let digits := whole ++ fraction
  let isWhole := r = [] || (r.head? = some 'e' && power ≠ [] && power.all Char.isDigit)
  if digits ≠ [] && isWhole then
    let n : Int := Text.decimalValue power
    let exponent := (if negative then -n else n) - fraction.length
    .ok (.ofDecimal false (Text.decimalValue digits) exponent)
  else .error .noSuchValue

/-- The sum of doubles, each of which counts sixty times as much as the one before it; `unit` is
what the first counts. -/
def sexagesimal (sum : Double) (unit : Nat) : List Double → Except Fault Double
  | [] => .ok sum
  | x :: xs =>
    let weight := Double.ofRatio false unit 1
    if weight.isFinite then sexagesimal (sum.addMagnitudes (x.mulMagnitudes weight)) (60 * unit) xs
    else .error .tooGreat

def numberValue (cs : List Char) : Except Fault Double :=
  let (negative, r) := splitSign ((cs.filter (· ≠ '_')).map Char.toLower)
  let magnitude : Except Fault Double :=
    let word := String.ofList (Text.trimBlanks r)
    if r = ".inf".toList || ["inf", "infinity"].contains word then .ok (.infinite false)
    else if r = ".nan".toList || word = "nan" then .ok .undefined
    else
      match splitColons r with
      | (first, []) => decimalValue first
      | (first, others) => do
        let parts ← (first :: others).mapM decimalValue
        sexagesimal (.zero false) 1 parts.reverse
  magnitude.map fun x => if negative then x.neg else x

/-! ## Days and times -/

/-- The digits of a day and a time as they are written: the year, month and day, and perhaps the
hour, minute, second and fraction, and the zone. -/
structure MomentText where
  day : List (List Char)
  clock : List (List Char)
  /-- The sign, hours and minutes of an offset; `Z` stands for a sign without digits. -/
  zone : Option (Char × List Char × List Char)

/-- At most `most` digits at the front, and the rest; none if there are fewer than `least`. -/
def digitsUpTo? (least most : Nat) (cs : List Char) : Option (List Char × List Char) :=
  let digits := (cs.take most).takeWhile Char.isDigit
  if least ≤ digits.length then some (digits, cs.drop digits.length) else none

def zoneText? (cs : List Char) : Option (Option (Char × List Char × List Char)) :=
  match cs with
  | [] => some none
  | cs =>
    match cs.dropWhile isSpaceOrTab with
    | ['Z'] => some (some ('Z', [], []))
    | s :: r =>
      if s = '-' || s = '+' then do
        let (hours, r) ← digitsUpTo? 1 2 r
        match r with
        | [] => some (some (s, hours, []))
        | ':' :: r =>
          let (minutes, r) ← digitsUpTo? 2 2 r
          if r = [] then some (some (s, hours, minutes)) else none
        | _ => none
      else none
    | [] => none

def momentText? (cs : List Char) : Option MomentText := do
  let (year, r) ← digitsUpTo? 4 4 cs
  let '-' :: r := r | none
  let (month, r) ← digitsUpTo? 1 2 r
  let '-' :: r := r | none
  let (day, r) ← digitsUpTo? 1 2 r
  if r = [] then return ⟨[year, month, day], [], none⟩
  else
    let r ←
      match r with
      | 'T' :: r => some r
      | 't' :: r => some r
      | r => if r.head?.any isSpaceOrTab then some (r.dropWhile isSpaceOrTab) else none
    let (hour, r) ← digitsUpTo? 1 2 r
    let ':' :: r := r | none
    let (minute, r) ← digitsUpTo? 2 2 r
    let ':' :: r := r | none
    let (second, r) ← digitsUpTo? 2 2 r
    let (fraction, r) :=
      match r with
      | '.' :: r => (r.takeWhile Char.isDigit, r.dropWhile Char.isDigit)
      | r => ([], r)
    return ⟨[year, month, day], [hour, minute, second, fraction], ← zoneText? r⟩

/-- Whether a text looks like a day or a time. A day alone has two digits each for its month and
day. -/
def looksMoment (cs : List Char) : Bool :=
  (momentText? cs).any fun t => t.clock ≠ [] || cs.length = 10

/-- The moment that digits stand for; the distance of a zone is less than a day. -/
def MomentText.value (t : MomentText) : Except Fault Moment :=
  match t.day.map Text.decimalValue, t.clock with
  | [year, month, day], clock =>
    let d : Day := ⟨year, month, day⟩
    match clock with
    | [hour, minute, second, fraction] =>
      let c : Clock := ⟨Text.decimalValue hour, Text.decimalValue minute, Text.decimalValue second,
        microseconds fraction⟩
      let ahead := t.zone.map fun (s, hours, minutes) =>
        let n : Int := 60 * Text.decimalValue hours + Text.decimalValue minutes
        if s = '-' then -n else n
      if d.exists && c.exists && ahead.all (·.natAbs < 1440) then .ok (.both d c ahead)
      else .error .noSuchValue
    | _ => if d.exists then .ok (.day d) else .error .noSuchValue
  | _, _ => .error .notMoment

/-! ## Kinds -/

def truthWords : List (String × Bool) :=
  [("yes", true), ("no", false), ("true", true), ("false", false), ("on", true), ("off", false)]

/-- Whether the letters of a word are all small, all capital, or only the first of them capital. -/
def hasOneCase (cs : List Char) : Bool :=
  let small := cs.map Char.toLower
  cs = small || cs = cs.map Char.toUpper ||
    cs = (small.head?.map Char.toUpper).toList ++ small.tail

def Kind.ofPlain (text : String) : Kind :=
  let cs := text.toList
  let small := String.ofList (cs.map Char.toLower)
  if ["", "~", "null", "Null", "NULL"].contains text then null
  else if hasOneCase cs && truthWords.any (·.1 = small) then boolean
  else if looksNumber cs then number
  else if looksInteger cs then integer
  else if text = "<<" then merge
  else if looksMoment cs then moment
  else if text = "=" then default
  else string

def scalarValue (kind : Kind) (text : String) : Except Fault Value :=
  match kind with
  | .null => .ok .null
  | .boolean =>
    match truthWords.find? (·.1 = String.ofList (text.toList.map Char.toLower)) with
    | some (_, b) => .ok (.bool b)
    | none => .error .notBoolean
  | .integer => (integerValue text.toList).map .int
  | .number => (numberValue text.toList).map .number
  | .moment =>
    -- A line end may follow.
    let cs := text.toList
    match momentText? (if cs.getLast? = some '\n' then cs.dropLast else cs) with
    | some t => t.value.map .moment
    | none => .error .notMoment
  | .string => .ok (.string text)
  | _ => .error .malformed

end SchemaGrammar.Document.Yaml
