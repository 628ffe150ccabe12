import SchemaGrammar.Text.Argument
import SchemaGrammar.Text.Picture
import SchemaGrammar.Text.StyleName

/-!
# Styled texts

A notice may hold style tags, which are not shown: brackets around a name that begins with a small
letter, `#`, `/` or `@`. A name after a slash ends the innermost style of that name, and a slash
alone ends the last one; neither may happen when there is no such style. A backslash before a tag
makes it text.
-/
namespace SchemaGrammar.Text

inductive StyleFault where
  /-- A tag ends a style that is not in force. -/
  | unmatched
  /-- The argument of a tag that ends cannot be read. -/
  | badArgument
  /-- A part of a colour is no number. -/
  | noNumber
  deriving DecidableEq, Repr

def StyleFault.text : StyleFault → String
  | unmatched => "a style ends that has not begun"
  | badArgument => "the argument of a tag cannot be read"
  | noNumber => "a part of a colour is no number"

def isTagStart (c : Char) : Bool :=
  ('a' ≤ c && c ≤ 'z') || c = '#' || c = '/' || c = '@'

def isTagInner (c : Char) : Bool := c ≠ '[' && c ≠ ']'

/-- What stands in a tag after its opening bracket, and the rest after its closing bracket. -/
def tag? (cs : List Char) : Option (List Char × List Char) :=
  if cs.head?.any isTagStart then
    match cs.dropWhile isTagInner with
    | ']' :: rest => some (cs.takeWhile isTagInner, rest)
    | _ => none
  else none

theorem length_of_tag? {cs name rest : List Char} (h : tag? cs = some (name, rest)) :
    rest.length < cs.length := by
  unfold tag? at h
  split at h
  · split at h
    · rename_i r hr
      cases h
      have := (List.dropWhile_sublist (l := cs) isTagInner).length_le
      rw [hr] at this
      exact Nat.lt_of_succ_le this
    · cases h
  · cases h

/-- A part of a styled text: characters that are shown, or what stands in a tag. -/
inductive Piece where
  | shown (cs : List Char)
  | tag (cs : List Char)

/-- The characters before the first tag, and the pieces from there on, after so many backslashes.
Two backslashes before a tag are one that is shown, and one that is left over makes the tag text. A
backslash before any other opening bracket is not shown. -/
def splitTags (slashes : Nat) (cs : List Char) : List Char × List Piece :=
  let slashed (n : Nat) : List Char × List Piece → List Char × List Piece
    | (text, pieces) => (List.replicate n '\\' ++ text, pieces)
  match cs with
  | [] => slashed slashes ([], [])
  | '\\' :: r => splitTags (slashes + 1) r
  | '[' :: r =>
    match h : tag? r with
    | none =>
      let (text, pieces) := splitTags 0 r
      slashed (slashes - 1) ('[' :: text, pieces)
    | some (tag, rest) =>
      have := length_of_tag? h
      let (text, pieces) := splitTags 0 rest
      let piece := if slashes % 2 = 1 then .shown ('[' :: tag ++ [']']) else .tag tag
      ([], .shown (List.replicate (slashes / 2) '\\') :: piece :: .shown text :: pieces)
  | c :: r =>
    let (text, pieces) := splitTags 0 r
    slashed slashes (c :: text, pieces)
termination_by cs.length
decreasing_by all_goals simp only [List.length_cons]; omega

def pieces (cs : List Char) : List Piece :=
  let (text, rest) := splitTags 0 cs
  .shown text :: rest

/-- A style in force, by the normal form of its name, and its argument. -/
structure OpenStyle where
  name : String
  argument : Option (List Char)

namespace OpenStyle

def isHandler (s : OpenStyle) : Bool := s.name.toList.head? = some '@'

def text (s : OpenStyle) : List Char :=
  s.name.toList ++ (s.argument.map (' ' :: ·)).getD []

def closingFault? (s : OpenStyle) : Option StyleFault :=
  if s.isHandler && !isArgument (s.argument.getD []) then some .badArgument else none

def lookupFault? (s : OpenStyle) : Option StyleFault :=
  if (styleName? s.text).isNone then some .noNumber else none

end OpenStyle

/-- What is read of a styled text: what is shown, the styles in force, innermost first, and the
styles that are no longer in force. -/
structure Styling where
  shown : List Char := []
  inForce : List OpenStyle := []
  ended : List OpenStyle := []

namespace Styling

def close (s : Styling) (style : OpenStyle) (inForce : List OpenStyle) :
    Except StyleFault Styling :=
  match style.closingFault? with
  | some fault => .error fault
  | none =>
    let ended := if style.isHandler then s.ended else style :: s.ended
    .ok { s with inForce := inForce, ended := ended }

/-- Ends the innermost style of a name, or the innermost of all if there is no name. -/
def closeNamed (s : Styling) (name : List Char) : Except StyleFault Styling :=
  let name := trimBlanks name
  match name with
  | [] =>
    match s.inForce with
    | [] => .error .unmatched
    | style :: others => s.close style others
  | _ =>
    match styleName? name with
    | none => .error .noNumber
    | some name =>
      match s.inForce.find? (·.name = name) with
      | none => .error .unmatched
      | some style => s.close style (s.inForce.eraseP (·.name = name))

/-- The styling after a tag. An equals sign parts a name from its argument. -/
def afterTag (s : Styling) (tag : List Char) : Except StyleFault Styling :=
  let name := tag.takeWhile (· ≠ '=')
  let argument := if tag.contains '=' then some (tag.drop (name.length + 1)) else none
  match name with
  | '/' :: name => s.closeNamed name
  | _ =>
    match styleName? name with
    | none => .error .noNumber
    | some name => .ok { s with inForce := ⟨name, argument⟩ :: s.inForce }

/-- The styling after a piece. Pictures do not reach over the ends of pieces. -/
def after (s : Styling) : Piece → Except StyleFault Styling
  | .shown cs => .ok { s with shown := s.shown ++ withPictures cs }
  | .tag tag => s.afterTag tag

end Styling

/-- The characters that move the place of writing, other than blanks and line ends. -/
def isControl (c : Char) : Bool := [7, 8, 11, 12, 13].contains c.toNat

/-- The characters with spaces for tabs, from a column on; after a tab the column is a multiple of
eight. -/
def withoutTabs (column : Nat) : List Char → List Char
  | [] => []
  | '\n' :: r => '\n' :: withoutTabs 0 r
  | '\t' :: r =>
    let width := 8 - column % 8
    List.replicate width ' ' ++ withoutTabs (column + width) r
  | c :: r => c :: withoutTabs (column + columnWidth c) r

/-- What is shown of a text. Styles that nothing ends are in force up to its end. -/
def unstyled (s : String) : Except StyleFault String := do
  let styling ← (pieces s.toList).foldlM Styling.after {}
  match (styling.inForce ++ styling.ended).findSome? OpenStyle.lookupFault? with
  | some fault => throw fault
  | none => return String.ofList (withoutTabs 0 (styling.shown.filter (!isControl ·)))

end SchemaGrammar.Text
