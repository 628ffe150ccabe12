import SchemaGrammar.Document.Fault
import SchemaGrammar.Document.Yaml.Placed
import SchemaGrammar.Text.CodePoint

/-!
# Quoted scalars

A scalar in single quotes holds every character as it stands, with a quote written twice; in double
quotes a backslash begins an escape. Either may go over several lines, which are folded, but not
over the bounds of a document.
-/
namespace SchemaGrammar.Document.Yaml

def escaped? : Char → Option Nat
  | '0' => some 0
  | 'a' => some 7
  | 'b' => some 8
  | 't' => some 9
  | '\t' => some 9
  | 'n' => some 10
  | 'v' => some 11
  | 'f' => some 12
  | 'r' => some 13
  | 'e' => some 27
  | ' ' => some 32
  | '"' => some 34
  | '/' => some 47
  | '\\' => some 92
  | 'N' => some 0x85
  | '_' => some 0xA0
  | 'L' => some 0x2028
  | 'P' => some 0x2029
  | _ => none

def escapeWidth? : Char → Option Nat
  | 'x' => some 2
  | 'u' => some 4
  | 'U' => some 8
  | _ => none

/-- The code point that an escape gives by its digits; it may be half a surrogate pair. -/
def codePointOf (digits : List Char) : Except Fault Nat :=
  let n := Text.hexValue digits
  if n < 0x110000 then .ok n
  else if n < 0x80000000 then .error .noSuchValue
  else .error .tooGreat

/-- An escape after its backslash, other than one at the end of a line: the code point, and how many
characters it takes. -/
def escape (ps : List Placed) : Except Fault (Nat × Nat) :=
  match ps.map Placed.char with
  | [] => .error .malformed
  | e :: r =>
    match escapeWidth? e with
    | some width =>
      let digits := r.take width
      if digits.length = width && digits.all Text.isHexDigit then
        (codePointOf digits).map fun n => (n, width + 1)
      else .error .malformed
    | none => (orMalformed (escaped? e)).map fun n => (n, 1)

def codePoints (cs : List Char) : List Nat := cs.map Char.toNat

def quotedFold (first : Char) (ps : List Placed) : Except Fault (Read Placed Fold ps.length) :=
  let s := fold isSpaceOrTab ps
  let f := s.value.cons first
  if f.crossed && beginsAnyMarker s.rest then .error .malformed else .ok ⟨f, s.rest, s.le⟩

def doubleQuoted (ps : List Placed) : Except Fault (Read Placed (List Nat) ps.length) :=
  match ps with
  | [] => .error .malformed
  | p :: r =>
    if p.char = '"' then .ok ⟨[], r, length_le_cons p r⟩
    else if p.char = '\\' then
      if r.head?.any (isBreak ·.char) then
        (quotedFold '\n' r.tail).bind fun ⟨f, r', h⟩ =>
          (doubleQuoted r').map fun t =>
            (t.map (codePoints f.breaks.tail ++ ·)).weaken (length_le_cons_of_le_tail p h)
      else
        (escape (r.take 9)).bind fun (n, used) =>
          (doubleQuoted (r.drop used)).map fun t =>
            (t.map (n :: ·)).weaken (length_drop_le_cons p r used)
    else if isSpaceOrBreak p.char then
      (quotedFold p.char r).bind fun ⟨f, r', h⟩ =>
        (doubleQuoted r').map fun t =>
          (t.map (codePoints f.text ++ ·)).weaken (length_le_cons_of_le p h)
    else
      (doubleQuoted r).map fun t =>
        (t.map (p.char.toNat :: ·)).weaken (length_le_cons p r)
termination_by ps.length
decreasing_by
  all_goals simp only [List.length_cons, List.length_drop, List.length_tail] at *
  all_goals omega

def singleQuoted (ps : List Placed) : Except Fault (Read Placed (List Char) ps.length) :=
  match ps with
  | [] => .error .malformed
  | p :: r =>
    if p.char = '\'' then
      if begins '\'' r then
        (singleQuoted r.tail).map fun t =>
          ⟨'\'' :: t.value, t.rest, by have := t.le; simp at *; omega⟩
      else .ok ⟨[], r, by simp⟩
    else if isSpaceOrBreak p.char then
      (quotedFold p.char r).bind fun ⟨f, r', h⟩ =>
        (singleQuoted r').map fun t => ⟨f.text ++ t.value, t.rest, by have := t.le; simp; omega⟩
    else
      (singleQuoted r).map fun t => ⟨p.char :: t.value, t.rest, by have := t.le; simp; omega⟩
termination_by ps.length
decreasing_by
  all_goals simp only [List.length_cons, List.length_tail] at *
  all_goals omega

end SchemaGrammar.Document.Yaml
