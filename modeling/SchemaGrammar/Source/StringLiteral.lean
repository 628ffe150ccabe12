import SchemaGrammar.Source.Trivia
import SchemaGrammar.Text.CodePoint
import SchemaGrammar.Text.Digits

/-!
# String literals

A string stands between two equal quotes. Escapes may give code points by number, also halves of a
surrogate pair; halves that follow one another are joined, and a half without its other is a fault.
A line end ends the string unless the quote is a backquote, and after a backslash it counts as
nothing.
-/
namespace SchemaGrammar.Source

def fixedCodePoint (width : Nat) (cs : List Char) : Scan Nat :=
  let digits := (cs.take width).takeWhile Text.isHexDigit
  if digits.length = width then ⟨.ok (Text.hexValue digits), width⟩
  else ⟨.error (.invalidEscape, 0), digits.length⟩

def bracedCodePoint (cs : List Char) : Scan Nat :=
  let digits := cs.takeWhile Text.isHexDigit
  match cs.drop digits.length with
  | '\x7d' :: _ =>
    if digits ≠ [] && Text.hexValue digits ≤ 0x10FFFF then
      ⟨.ok (Text.hexValue digits), digits.length + 1⟩
    else ⟨.error (.invalidEscape, 0), digits.length + 1⟩
  | _ => ⟨.error (.invalidEscape, 0), digits.length⟩

/-- Reads what follows the backslash of a numeric escape: `xHH`, `uHHHH` or `u` with digits in
braces. The place at fault is always the first character. -/
def codePoint (cs : List Char) : Scan Nat :=
  let place (n : Nat) (s : Scan Nat) : Scan Nat := ⟨s.outcome, s.used + n⟩
  match cs with
  | [] => ⟨.error (.invalidEscape, 0), 0⟩
  | 'x' :: r => place 1 (fixedCodePoint 2 r)
  | _ :: '\x7b' :: r => place 2 (bracedCodePoint r)
  | _ :: r => place 1 (fixedCodePoint 4 r)

/-- The code point that a backslash before a character other than `x` and `u` gives, if any. -/
def simpleEscape (c : Char) : List Nat :=
  match c with
  | 'n' => [10]
  | 't' => [9]
  | 'r' => [13]
  | 'b' => [8]
  | 'f' => [12]
  | 'v' => [11]
  | '0' => [0]
  | '\n' => []
  | c => [c.toNat]

inductive Content where
  /-- The code points of a string that closes, and how many characters end with its quote. -/
  | closed (units : List Nat) (used : Nat)
  /-- No quote closes the string; reading stopped after `used` characters. -/
  | unclosed (used : Nat)
  /-- A bad escape begins after `place` characters; reading stopped after `used`. -/
  | badEscape (place used : Nat)
  deriving DecidableEq, Repr

/-- The content `t`, seen from `n` characters before that give the code points `units`. -/
def Content.after (units : List Nat) (n : Nat) : Content → Content
  | closed more used => closed (units ++ more) (used + n)
  | unclosed used => unclosed (used + n)
  | badEscape place used => badEscape (place + n) (used + n)

def stringContent (q : Char) (cs : List Char) : Content :=
  match cs with
  | [] => .unclosed 0
  | c :: r =>
    if c = q then .closed [] 1
    else if c = '\n' && q ≠ '\x60' then .unclosed 0
    else if c = '\\' then
      match r with
      | [] => .unclosed 1
      | e :: r' =>
        if e = 'x' || e = 'u' then
          match codePoint (e :: r') with
          | ⟨.error _, used⟩ => .badEscape 0 (used + 1)
          | ⟨.ok n, used⟩ => (stringContent q ((e :: r').drop used)).after [n] (used + 1)
        else (stringContent q r').after (simpleEscape e) 2
    else (stringContent q r).after [c.toNat] 1
termination_by cs.length
decreasing_by
  all_goals simp only [List.length_drop, List.length_cons]
  all_goals omega

/-- Reads a string whose quote is the first character, whatever it is. A string that does not close
and one with half a pair are at fault at that quote, a bad escape is at its backslash. -/
def stringLiteral (cs : List Char) : Scan String :=
  match cs with
  | [] => ⟨.ok "", 0⟩
  | q :: r =>
    match stringContent q r with
    | .closed units used =>
      match Text.joinSurrogates units with
      | some value => ⟨.ok (String.ofList value), used + 1⟩
      | none => ⟨.error (.unpairedSurrogate, 0), used + 1⟩
    | .unclosed used => ⟨.error (.unterminatedString, 0), used + 1⟩
    | .badEscape place used => ⟨.error (.invalidEscape, place + 1), used + 1⟩

end SchemaGrammar.Source
