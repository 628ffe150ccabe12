import SchemaGrammar.Document.Fault
import SchemaGrammar.Document.Value
import SchemaGrammar.Text.CharClass

/-!
# Checking documents

A check turns a value into what it describes, or lists every complaint about it, each with the path
to the place it concerns. The complaints about the fields of an object come in the order in which
the fields are declared.
-/
namespace SchemaGrammar.Document

/-- A step from a value into one of its parts, or into the variant that a tag names. -/
inductive PathStep where
  | field (name : String)
  | index (n : Nat)
  deriving DecidableEq, Repr

inductive Mismatch where
  | missing
  | notString
  | notList
  | notTuple
  | notModel
  | notTagged
  | tagMissing
  | tagUnknown
  | notLiteral
  | tooShort
  | notInteger
  | fractional
  /-- An infinite or undefined number. -/
  | notFinite
  | integerText
  /-- A number that no 64 bits hold, or a text of too many digits. -/
  | integerSize
  | notBoolean
  | booleanText
  deriving DecidableEq, Repr

def Mismatch.name : Mismatch → String
  | missing => "missing"
  | notString => "string_type"
  | notList => "list_type"
  | notTuple => "tuple_type"
  | notModel => "model_type"
  | notTagged => "model_attributes_type"
  | tagMissing => "union_tag_not_found"
  | tagUnknown => "union_tag_invalid"
  | notLiteral => "literal_error"
  | tooShort => "too_short"
  | notInteger => "int_type"
  | fractional => "int_from_float"
  | notFinite => "finite_number"
  | integerText => "int_parsing"
  | integerSize => "int_parsing_size"
  | notBoolean => "bool_type"
  | booleanText => "bool_parsing"

structure Complaint where
  path : List PathStep
  mismatch : Mismatch
  deriving DecidableEq, Repr

/-- The outcome of a check: a value, or all complaints. -/
inductive Check (α : Type) where
  | valid (a : α)
  | invalid (complaints : List Complaint)
  deriving Repr

namespace Check

variable {α β : Type}

def map (f : α → β) : Check α → Check β
  | valid a => valid (f a)
  | invalid cs => invalid cs

def app (f : Check (α → β)) (a : Check α) : Check β :=
  match f, a with
  | valid f, valid a => valid (f a)
  | valid _, invalid ds => invalid ds
  | invalid cs, valid _ => invalid cs
  | invalid cs, invalid ds => invalid (cs ++ ds)

instance : Applicative Check where
  pure := valid
  map := map
  seq f a := app f (a ())

def andThen (a : Check α) (next : α → Check β) : Check β :=
  match a with
  | valid a => next a
  | invalid cs => invalid cs

def complain (m : Mismatch) : Check α := invalid [⟨[], m⟩]

def under (step : PathStep) : Check α → Check α
  | valid a => valid a
  | invalid cs => invalid (cs.map fun c => ⟨step :: c.path, c.mismatch⟩)

def toExcept : Check α → Except (List Complaint) α
  | valid a => .ok a
  | invalid cs => .error cs

end Check

variable {α : Type}

/-- A field that has to be there; its check may use that the field is smaller than the fields. -/
def requiredWith (fields : List (String × Value)) (name : String)
    (check : (v : Value) → sizeOf v < sizeOf fields → Check α) : Check α :=
  let result : Check α :=
    match field? name fields with
    | none => .complain .missing
    | some ⟨v, h⟩ => check v h
  result.under (.field name)

/-- A field that stands for `default` if it is left out. -/
def optionalWith (fields : List (String × Value)) (name : String) (default : α)
    (check : (v : Value) → sizeOf v < sizeOf fields → Check α) : Check α :=
  match field? name fields with
  | none => .valid default
  | some ⟨v, h⟩ => (check v h).under (.field name)

def required (fields : List (String × Value)) (name : String) (check : Value → Check α) : Check α :=
  requiredWith fields name fun v _ => check v

def optional (fields : List (String × Value)) (name : String) (default : α)
    (check : Value → Check α) : Check α :=
  optionalWith fields name default fun v _ => check v

def itemsFrom (n : Nat) :
    (items : List Value) → ((v : Value) → sizeOf v < sizeOf items → Check α) → Check (List α)
  | [], _ => .valid []
  | v :: items, check =>
    (((check v (by simp; omega)).under (.index n)).map List.cons).app
      (itemsFrom (n + 1) items fun w h => check w (by simp; omega))

def items (check : Value → Check α) (vs : List Value) : Check (List α) :=
  itemsFrom 0 vs fun v _ => check v

def list (check : Value → Check α) : Value → Check (List α)
  | .array vs => items check vs
  | _ => .complain .notList

def fieldsOf : Value → Check (List (String × Value))
  | .object fields => .valid fields
  | _ => .complain .notModel

def string : Value → Check String
  | .string s => .valid s
  | _ => .complain .notString

def nullable (check : Value → Check α) : Value → Check (Option α)
  | .null => .valid none
  | v => (check v).map some

def literal (text : String) : Value → Check Unit
  | .string s => if s = text then .valid () else .complain .notLiteral
  | _ => .complain .notLiteral

/-- The integer that a text is: digits without needless zeros in front, perhaps after a minus sign.
-/
def plainInteger (cs : List Char) : Except Mismatch Int :=
  let (negative, r) :=
    match cs with
    | '-' :: r => (true, r)
    | r => (false, r)
  let digits := r.takeWhile Char.isDigit
  if digits = [] || digits.head? = some '0' then
    if r = ['0'] then .ok 0 else .error .integerText
  else if greatestDigits < digits.length + (if negative then 1 else 0) then .error .integerSize
  else if digits.length < r.length then .error .integerText
  else
    let n : Int := Text.decimalValue digits
    .ok (if negative then -n else n)

/-- A number after a zero, without the further zeros in front of it and the single underscores
between those; the last zero stays if no other digit follows. None if the text does not go on as a
number. -/
def afterZero : List Char → Option (List Char)
  | [] => some ['0']
  | '0' :: r => afterZero r
  | '_' :: '0' :: r => afterZero r
  | '_' :: c :: r => if c.isDigit then some (c :: r) else none
  | '.' :: r => some ('0' :: '.' :: r)
  | c :: r => if c.isDigit then some (c :: r) else none

def dropFrontZeros : List Char → Option (List Char)
  | '0' :: r => afterZero r
  | c :: r => if c.isDigit || c = '-' then some (c :: r) else none
  | [] => none

def dropZeroFraction (cs : List Char) : List Char :=
  match cs.dropWhile (· ≠ '.') with
  | _ :: zeros =>
    if zeros ≠ [] && zeros.all (· = '0') then cs.takeWhile (· ≠ '.') else cs
  | [] => cs

/-- Whether underscores stand only between other characters, and never two together. -/
def separates (cs : List Char) : Bool :=
  cs.head? ≠ some '_' && cs.getLast? ≠ some '_' && !(cs.zip cs.tail).contains ('_', '_')

/-- A text that is not an integer as it stands, brought into that form: without white space around
it, a plus sign, zeros in front, a fraction of zeros, and underscores between digits. -/
def cleaned (cs : List Char) : Option (List Char) :=
  let trimmed := ((cs.dropWhile Text.isWhiteSpace).reverse.dropWhile Text.isWhiteSpace).reverse
  let unsigned :=
    match trimmed with
    | '+' :: r => r
    | r => r
  if "+-".toList.isPrefixOf trimmed then none
  else
    (dropFrontZeros unsigned).map fun digits =>
      let whole := dropZeroFraction digits
      if separates whole then whole.filter (· ≠ '_') else whole

def integerOfText (text : String) : Except Mismatch Int :=
  match plainInteger text.toList with
  | .ok n => .ok n
  | .error .integerText =>
    match cleaned text.toList with
    | some cs => plainInteger cs
    | none => .error .integerText
  | .error m => .error m

/-- The integer that a double is, if it has no fraction and 64 bits hold it. -/
def integerOfDouble (x : Double) : Except Mismatch Int :=
  if x.isFinite then
    match x.integer? with
    | none => .error .fractional
    | some n => if -Int.pow 2 63 < n && n < Int.pow 2 63 then .ok n else .error .integerSize
  else .error .notFinite

def Check.ofExcept : Except Mismatch α → Check α
  | .ok a => .valid a
  | .error m => .complain m

/-- Integers of any size, and what stands for one: truth values, doubles without a fraction, texts.
-/
def integer : Value → Check Int
  | .int n => .valid n
  | .bool b => .valid (if b then 1 else 0)
  | .number x => .ofExcept (integerOfDouble x)
  | .string s => .ofExcept (integerOfText s)
  | _ => .complain .notInteger

/-- The truth value that zero or one stands for; integers that 64 bits do not hold are no truth
values at all. -/
def truthOfInteger (n : Int) : Check Bool :=
  if n = 0 then .valid false
  else if n = 1 then .valid true
  else if -Int.pow 2 63 ≤ n && n < Int.pow 2 63 then .complain .booleanText
  else .complain .notBoolean

/-- Truth values, and what stands for one: zero and one, and words in any case. -/
def boolean : Value → Check Bool
  | .bool b => .valid b
  | .int n => truthOfInteger n
  | .number x =>
    match integerOfDouble x with
    | .ok n => truthOfInteger n
    | .error _ => .complain .notBoolean
  | .string s =>
    let word := String.ofList (s.toList.map Char.toLower)
    if ["0", "off", "f", "false", "n", "no"].contains word then .valid false
    else if ["1", "on", "t", "true", "y", "yes"].contains word then .valid true
    else .complain .booleanText
  | _ => .complain .notBoolean

end SchemaGrammar.Document
