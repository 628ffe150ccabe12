import SchemaGrammar.Text.Case
import SchemaGrammar.Text.CharClass
import SchemaGrammar.Text.Digits
import SchemaGrammar.Text.PictureTable

/-!
# Pictures in texts

A name between colons stands for the picture of that name. The name may end in a dash and the word
for how the picture is to look, as text or in colours. Names that are not known stay as they are.
-/
namespace SchemaGrammar.Text

def charOfHex (digits : String) : Char := Char.ofNat (hexValue digits.toList)

def pictureFrom? (name : String) (entry : String) : Option (List Char) :=
  match entry.splitOn "=" with
  | [n, codes] => if n = name then some ((codes.splitOn "+").map charOfHex) else none
  | _ => none

def picture? (name : List Char) : Option (List Char) :=
  let small := String.ofList (name.map smallLetter)
  (pictureTable.splitOn "\n").findSome? fun line =>
    (line.splitOn " ").findSome? (pictureFrom? small)

/-- A name without the word for how the picture is to look, and the character for that. -/
def splitVariant (name : List Char) : List Char × List Char :=
  let ends (word : String) : Bool := word.toList.reverse.isPrefixOf name.reverse
  if ends "-text" then (name.take (name.length - 5), ['\ufe0e'])
  else if ends "-emoji" then (name.take (name.length - 6), ['\ufe0f'])
  else (name, [])

def named (name : List Char) : List Char :=
  let (n, variant) := splitVariant name
  match picture? n with
  | some picture => picture ++ variant
  | none => ':' :: name ++ [':']

/-- The characters of a text with pictures for their names. A name holds no blanks, and the colon at
its end does not begin another. -/
def withPictures (cs : List Char) : List Char :=
  match cs with
  | [] => []
  | c :: r =>
    if c = ':' then
      let isInner (c : Char) : Bool := c ≠ ':' && !isBlank c
      match h : r.dropWhile isInner with
      | ':' :: r' =>
        have : r'.length < r.length := by
          have := (List.dropWhile_sublist (l := r) isInner).length_le
          rw [h] at this
          exact this
        named (r.takeWhile isInner) ++ withPictures r'
      | _ => c :: withPictures r
    else c :: withPictures r
termination_by cs.length

end SchemaGrammar.Text
