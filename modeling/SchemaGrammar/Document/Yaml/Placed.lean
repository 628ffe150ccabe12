import SchemaGrammar.Document.Read

/-!
# Places in YAML texts

Every character of a text knows its place: how many characters come before it, its line and its
column, all counted from zero. Columns decide how block collections nest, and lines how far a key
may reach.
-/
namespace SchemaGrammar.Document.Yaml

structure Placed where
  char : Char
  index : Nat
  line : Nat
  column : Nat
  deriving DecidableEq, Repr

def isBreak (c : Char) : Bool := c = '\n' || c = '\x85' || c = '\u2028' || c = '\u2029'

def isSpaceOrTab (c : Char) : Bool := c = ' ' || c = '\t'

def isSpaceOrBreak (c : Char) : Bool := isSpaceOrTab c || isBreak c

def isAllowed (c : Char) : Bool :=
  let n := c.toNat
  n = 9 || n = 10 || (32 ≤ n && n ≤ 126) || n = 0x85 || (0xA0 ≤ n && n ≤ 0xFFFD) || 0x10000 ≤ n

/-- The characters with their places, from the given one on. A byte order mark takes no column. -/
def placeFrom (index line column : Nat) : List Char → List Placed
  | [] => []
  | c :: r =>
    ⟨c, index, line, column⟩ ::
      if isBreak c then placeFrom (index + 1) (line + 1) 0 r
      else placeFrom (index + 1) line (if c = '\ufeff' then column else column + 1) r

def place (cs : List Char) : List Placed := placeFrom 0 0 0 cs

def begins (c : Char) (ps : List Placed) : Bool := ps.head?.any (·.char = c)

def endsIndicator (ps : List Placed) : Bool := ps.head?.all (isSpaceOrBreak ·.char)

def beginsMarker (c : Char) (ps : List Placed) : Bool :=
  match ps with
  | a :: b :: d :: r => a.column = 0 && [a, b, d].all (·.char = c) && endsIndicator r
  | _ => false

def beginsAnyMarker (ps : List Placed) : Bool := beginsMarker '-' ps || beginsMarker '.' ps

/-- Skips spaces, comments and line ends, and tells whether there was a line end. -/
def skipGapFrom (crossed comment : Bool) : (ps : List Placed) → Read Placed Bool ps.length
  | [] => ⟨crossed, [], length_nil_le⟩
  | p :: r =>
    if isBreak p.char then (skipGapFrom true false r).weaken (length_le_cons p r)
    else if comment || p.char = ' ' then
      (skipGapFrom crossed comment r).weaken (length_le_cons p r)
    else if p.char = '#' then (skipGapFrom crossed true r).weaken (length_le_cons p r)
    else ⟨crossed, p :: r, length_cons_le p r⟩

def skipGap (ps : List Placed) : Read Placed Bool ps.length := skipGapFrom false false ps

/-! ## Folding -/

def breakChar (c : Char) : Char := if c = '\x85' then '\n' else c

/-- Spaces and line ends inside a scalar: the line ends, and the spaces before the first of them. -/
structure Fold where
  spaces : List Char
  breaks : List Char
  deriving DecidableEq, Repr

namespace Fold

/-- Spaces alone stand for themselves. A single line end is a space, and of several the first is
dropped, unless it is one of the separators of lines or paragraphs. -/
def text (f : Fold) : List Char :=
  match f.breaks with
  | [] => f.spaces
  | first :: others =>
    if first ≠ '\n' then first :: others else if others = [] then [' '] else others

def cons (c : Char) (f : Fold) : Fold :=
  if isBreak c then ⟨[], breakChar c :: f.breaks⟩ else ⟨c :: f.spaces, f.breaks⟩

def crossed (f : Fold) : Bool := f.breaks ≠ []

end Fold

def fold (isSpace : Char → Bool) : (ps : List Placed) → Read Placed Fold ps.length
  | [] => ⟨⟨[], []⟩, [], length_nil_le⟩
  | p :: r =>
    if isBreak p.char || isSpace p.char then
      ((fold isSpace r).map (Fold.cons p.char)).weaken (length_le_cons p r)
    else ⟨⟨[], []⟩, p :: r, length_cons_le p r⟩

end SchemaGrammar.Document.Yaml
