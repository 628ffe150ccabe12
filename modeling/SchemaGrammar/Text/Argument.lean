import SchemaGrammar.Text.CharClass
import SchemaGrammar.Text.Digits

/-!
# Arguments of tags

A tag may name a handler and the values that it is called with: `f(1, "a")`. Values are numbers,
quoted texts, names of constants, and groups of values in parentheses or braces. The readers here
only tell where a value ends; what it stands for is of no use to a text.
-/
namespace SchemaGrammar.Text

def skipBlank (cs : List Char) : List Char := cs.dropWhile isBlank

/-- The rest after digits that single underscores may part. -/
def afterDigits? (digit : Char → Bool) : List Char → Option (List Char)
  | [] => none
  | [c] => if digit c then some [] else none
  | c :: '_' :: r => if digit c then afterDigits? digit r else none
  | c :: d :: r => if digit c then some ((afterDigits? digit (d :: r)).getD (d :: r)) else none

def afterExponent (cs : List Char) : List Char :=
  match cs with
  | e :: r =>
    let unsigned :=
      match r with
      | s :: r' => if s = '+' || s = '-' then r' else r
      | [] => r
    if e = 'e' || e = 'E' then (afterDigits? Char.isDigit unsigned).getD cs else cs
  | [] => cs

/-- The rest after a number with a fraction or an exponent; none if neither is there. -/
def afterFraction? (cs : List Char) : Option (List Char) :=
  let whole := afterDigits? Char.isDigit cs
  match whole.getD cs with
  | '.' :: r =>
    match afterDigits? Char.isDigit r with
    | some rest => some (afterExponent rest)
    | none => whole.map fun _ => afterExponent r
  | rest =>
    let rest' := afterExponent rest
    if whole.isSome && rest'.length < rest.length then some rest' else none

/-- The rest after a number. A whole number has no needless zeros in front. -/
def afterNumber? (cs : List Char) : Option (List Char) :=
  let based? : Option (List Char) :=
    match cs with
    | '0' :: b :: r =>
      let r := if r.head? = some '_' then r.tail else r
      if b = 'x' || b = 'X' then afterDigits? isHexDigit r
      else if b = 'o' || b = 'O' then afterDigits? (isDigitIn 8) r
      else if b = 'b' || b = 'B' then afterDigits? (isDigitIn 2) r
      else none
    | _ => none
  match based?, afterFraction? cs, afterDigits? Char.isDigit cs with
  | some rest, _, _ | none, some rest, _ => some rest
  | none, none, some rest =>
    let digits := (cs.take (cs.length - rest.length)).filter (· ≠ '_')
    if digits.head? = some '0' && digits.any (· ≠ '0') then none else some rest
  | none, none, none => none

def afterUnsigned? (cs : List Char) : Option (List Char × Bool) :=
  match afterNumber? cs with
  | some (c :: r) => some (if c = 'j' || c = 'J' then (r, true) else (c :: r, false))
  | some [] => some ([], false)
  | none => none

def afterSum? (cs : List Char) : Option (List Char) :=
  let unsigned :=
    match cs with
    | s :: r => if s = '+' || s = '-' then skipBlank r else cs
    | [] => cs
  match afterUnsigned? unsigned with
  | none => none
  | some (rest, true) => some rest
  | some (rest, false) =>
    match skipBlank rest with
    | s :: r =>
      if s = '+' || s = '-' then
        match afterUnsigned? (skipBlank r) with
        | some (rest, true) => some rest
        | _ => none
      else some rest
    | [] => some rest

def afterQuote? (quote : Char) : List Char → Option (List Char)
  | [] => none
  | '\\' :: _ :: r => afterQuote? quote r
  | c :: r => if c = quote then some r else if c = '\n' then none else afterQuote? quote r

/-- The rest after a quoted text, before which letters may say how it is to be read. -/
def afterQuoted? (cs : List Char) : Option (List Char) :=
  let marks := String.ofList ((cs.takeWhile Char.isAlpha).map Char.toLower)
  match cs.dropWhile Char.isAlpha with
  | q :: r =>
    if (q = '\'' || q = '"') && ["", "r", "b", "u", "br", "rb"].contains marks then afterQuote? q r
    else none
  | [] => none

def afterMoreQuoted : Nat → List Char → List Char
  | 0, cs => cs
  | n + 1, cs =>
    match afterQuoted? (skipBlank cs) with
    | some rest => afterMoreQuoted n rest
    | none => cs

def afterAtom? (cs : List Char) : Option (List Char) :=
  match afterQuoted? cs, afterSum? cs with
  | some rest, _ => some (afterMoreQuoted rest.length rest)
  | none, some rest => some rest
  | none, none =>
    let name := cs.takeWhile fun c => isLetterOrNumber c || c = '_'
    if ["True", "False", "None"].contains (String.ofList name) then some (cs.drop name.length)
    else if "...".toList.isPrefixOf cs then some (cs.drop 3)
    else none

mutual

def afterValue? (fuel : Nat) (cs : List Char) : Option (List Char) :=
  match fuel, cs with
  | 0, _ => none
  | fuel + 1, '(' :: r => afterItems? fuel false ')' r
  | fuel + 1, '\x7b' :: r =>
    match afterItems? fuel true '\x7d' r with
    | some rest => some rest
    | none => afterItems? fuel false '\x7d' r
  | _ + 1, cs => afterAtom? cs

/-- The rest after values with commas between them, or pairs of a name and a value, up to what
closes their group. -/
def afterItems? (fuel : Nat) (pairs : Bool) (close : Char) (cs : List Char) : Option (List Char) :=
  match fuel with
  | 0 => none
  | fuel + 1 =>
    match skipBlank cs with
    | [] => none
    | c :: r =>
      if c = close then some r
      else
        match (afterItem? fuel pairs (c :: r)).map skipBlank with
        | some (',' :: rest) => afterItems? fuel pairs close rest
        | some (d :: rest) => if d = close then some rest else none
        | _ => none

def afterItem? (fuel : Nat) (pair : Bool) (cs : List Char) : Option (List Char) :=
  match fuel with
  | 0 => none
  | fuel + 1 =>
    match afterValue? fuel cs, pair with
    | some rest, false => some rest
    | some rest, true =>
      match skipBlank rest with
      | ':' :: r => afterValue? fuel (skipBlank r)
      | _ => none
    | none, _ => none

end

def isValues (cs : List Char) : Bool :=
  afterItems? (3 * cs.length + 3) false ')' (cs ++ [')']) = some []

/-- Whether the argument of a tag can be read: it is the name of a handler, with or without values
in parentheses, or it is values alone. -/
def isArgument (cs : List Char) : Bool :=
  let trimmed := trimBlanks cs
  match trimmed.dropWhile fun c => isLetterOrNumber c || c = '_' || c = '.' with
  | [] => true
  | c :: r =>
    let isCall := c = '(' && r.getLast? = some ')' && !r.contains '\n'
    isValues (if isCall then c :: r else trimmed)

end SchemaGrammar.Text
