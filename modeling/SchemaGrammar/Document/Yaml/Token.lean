import SchemaGrammar.Document.Fault
import SchemaGrammar.Document.Yaml.Placed
import SchemaGrammar.Text.Digits

/-!
# Tokens of YAML texts

The tokens of a text: marks of documents and collections, scalars, and the anchors, aliases, tags
and directives that are written as words.
-/
namespace SchemaGrammar.Document.Yaml

inductive Directive where
  /-- The version of the language. -/
  | version (major minor : Nat)
  /-- What a handle in front of a tag stands for. -/
  | handle (name stem : String)
  | other
  deriving DecidableEq, Repr

inductive Token where
  | directive (d : Directive)
  | documentStart
  | documentEnd
  /-- A block sequence begins. -/
  | sequenceStart
  /-- A block mapping begins. -/
  | mappingStart
  /-- A block collection ends. -/
  | blockEnd
  | openBracket
  | closeBracket
  | openBrace
  | closeBrace
  | comma
  /-- An item of a block sequence follows. -/
  | entry
  /-- A key follows. -/
  | key
  /-- The value of a key follows. -/
  | value
  | anchor (name : String)
  | alias (name : String)
  /-- A tag, perhaps with a handle in front. -/
  | tag (handle : Option String) (name : String)
  | scalar (text : String) (isPlain : Bool)
  /-- Here the text is at fault. -/
  | fault (f : Fault)
  deriving DecidableEq, Repr

def isNameChar (c : Char) : Bool := c.isAlphanum || c = '-' || c = '_'

def isTagChar (c : Char) : Bool :=
  isNameChar c || [';', '/', '?', ':', '@', '&', '=', '+', '$', ',', '.', '!', '~', '*', '\'', '(',
    ')', '[', ']', '%'].contains c

def endsWith (cs : List Char) : Bool := cs.head?.all fun c => c = ' ' || isBreak c

def anchorName? (cs : List Char) : Option (List Char) :=
  let name := cs.takeWhile isNameChar
  let ends (c : Char) : Bool :=
    isSpaceOrBreak c || ['?', ':', ',', ']', '\x7d', '%', '@', '\x60'].contains c
  if name ≠ [] && (cs.drop name.length).head?.all ends then some name else none

/-- A handle: an exclamation mark, or a name between two of them. -/
def handle? (cs : List Char) : Option (List Char) :=
  match cs with
  | '!' :: r =>
    if begins r ' ' then some ['!']
    else
      let name := r.takeWhile isNameChar
      if begins (r.drop name.length) '!' then some ('!' :: name ++ ['!']) else none
  | _ => none
where
  begins (cs : List Char) (c : Char) : Bool := cs.head? = some c

def tagText? (cs : List Char) : Option (List Char) :=
  let text := cs.takeWhile isTagChar
  if text = [] then none else some text

def tag? (cs : List Char) : Option (Token × Nat) :=
  let ended (found : Token × Nat) : Option (Token × Nat) :=
    if endsWith (cs.drop found.2) then some found else none
  match cs.tail with
  | [] => some (.tag none "!", 1)
  | '<' :: r =>
    (tagText? r).bind fun text =>
      if (r.drop text.length).head? = some '>' then
        ended (.tag none (String.ofList text), text.length + 3)
      else none
  | c :: r =>
    if isSpaceOrBreak c then ended (.tag none "!", 1)
    else
      let word := (c :: r).takeWhile fun c => c ≠ ' ' && !isBreak c
      let handle := if word.contains '!' then handle? cs else some ['!']
      handle.bind fun handle =>
        (tagText? (cs.drop handle.length)).bind fun text =>
          ended (.tag (some (String.ofList handle)) (String.ofList text),
            handle.length + text.length)

def versionNumber? (cs : List Char) : Option (Nat × List Char) :=
  let digits := cs.takeWhile Char.isDigit
  if digits = [] then none else some (Text.decimalValue digits, cs.drop digits.length)

def skipSpaces (cs : List Char) : List Char := cs.dropWhile (· = ' ')

def directiveBody? (name : List Char) (cs : List Char) : Option (Directive × List Char) :=
  if name = "YAML".toList then do
    let (major, r) ← versionNumber? (skipSpaces cs)
    let '.' :: r := r | none
    let (minor, r) ← versionNumber? r
    if endsWith r then some (.version major minor, r) else none
  else if name = "TAG".toList then do
    let r := skipSpaces cs
    let handle ← handle? r
    let ' ' :: r := r.drop handle.length | none
    let r := skipSpaces r
    let stem ← tagText? r
    let r := r.drop stem.length
    if endsWith r then some (.handle (String.ofList handle) (String.ofList stem), r) else none
  else some (.other, cs.dropWhile (!isBreak ·))

def directive? (cs : List Char) : Option (Token × List Char) := do
  let name := cs.takeWhile isNameChar
  let r := cs.drop name.length
  if name = [] || !endsWith r then none
  else
    let (d, r) ← directiveBody? name r
    let r := skipSpaces r
    let r := if r.head? = some '#' then r.dropWhile (!isBreak ·) else r
    if r.head?.all isBreak then some (.directive d, r.tail) else none

end SchemaGrammar.Document.Yaml
