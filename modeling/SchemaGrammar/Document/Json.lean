import SchemaGrammar.Document.Fault
import SchemaGrammar.Document.Read
import SchemaGrammar.Document.Value
import SchemaGrammar.Text.CodePoint

/-!
# JSON texts

A JSON text is one value with blanks around it. Strings hold no control characters, and a surrogate
pair given by two escapes is one character; half a pair is kept. Of several fields with one name the
last counts.
Infinite and undefined numbers are read by name. The fault of a text is the first from the left.
-/
namespace SchemaGrammar.Document.Json

def isBlank (c : Char) : Bool := c = ' ' || c = '\t' || c = '\n' || c = '\r'

def skipBlanks (cs : List Char) : List Char := cs.dropWhile isBlank

theorem length_skipBlanks_le (cs : List Char) : (skipBlanks cs).length ≤ cs.length :=
  (List.dropWhile_sublist isBlank).length_le

def escaped? : Char → Option Nat
  | '"' => some 34
  | '\\' => some 92
  | '/' => some 47
  | 'b' => some 8
  | 'f' => some 12
  | 'n' => some 10
  | 'r' => some 13
  | 't' => some 9
  | _ => none

def codePoints : (cs : List Char) → Except Fault (Read Char (List Nat) cs.length)
  | [] => .error .malformed
  | '"' :: r => .ok ⟨[], r, length_le_cons '"' r⟩
  | '\\' :: 'u' :: a :: b :: c :: d :: r =>
    if [a, b, c, d].all Text.isHexDigit then
      (codePoints r).map fun s =>
        ⟨Text.hexValue [a, b, c, d] :: s.value, s.rest,
          Nat.le_trans s.le (List.suffix_append ['\\', 'u', a, b, c, d] r).length_le⟩
    else .error .malformed
  | '\\' :: e :: r =>
    match escaped? e with
    | some n => (codePoints r).map fun s =>
      ⟨n :: s.value, s.rest, length_le_cons_of_le '\\' (length_le_cons_of_le e s.le)⟩
    | none => .error .malformed
  | c :: r =>
    if c = '\\' || c.toNat < 32 then .error .malformed
    else (codePoints r).map fun s => ⟨c.toNat :: s.value, s.rest, length_le_cons_of_le c s.le⟩

def string (cs : List Char) : Except Fault (Read Char String cs.length) :=
  (codePoints cs).map fun s =>
    ⟨String.ofList (Text.hold (Text.joinPairs s.value)), s.rest, s.le⟩

def wholeDigits (cs : List Char) : Option (List Char × List Char) :=
  match cs with
  | '0' :: r => some (['0'], r)
  | c :: _ =>
    if c.isDigit then some (cs.takeWhile Char.isDigit, cs.dropWhile Char.isDigit) else none
  | [] => none

/-- The digits after a point, and the rest; none if no digit follows a point. -/
def fractionDigits (cs : List Char) : List Char × List Char :=
  match cs with
  | '.' :: c :: r =>
    if c.isDigit then ((c :: r).takeWhile Char.isDigit, (c :: r).dropWhile Char.isDigit)
    else ([], cs)
  | _ => ([], cs)

def exponent? (cs : List Char) : Option Int × List Char :=
  match cs with
  | e :: r =>
    if e = 'e' || e = 'E' then
      let (negative, r') :=
        match r with
        | '-' :: r' => (true, r')
        | '+' :: r' => (false, r')
        | r' => (false, r')
      let digits := r'.takeWhile Char.isDigit
      if digits = [] then (none, cs)
      else
        let n : Int := Text.decimalValue digits
        (some (if negative then -n else n), r'.dropWhile Char.isDigit)
    else (none, cs)
  | [] => (none, cs)

/-- A number and the rest: an integer, or a double if there is a fraction or an exponent. -/
def number (cs : List Char) : Except Fault (Value × List Char) :=
  let (negative, r) : Bool × List Char :=
    match cs with
    | '-' :: r => (true, r)
    | r => (false, r)
  match wholeDigits r with
  | none => .error .malformed
  | some (whole, r) =>
    let (fraction, r') := fractionDigits r
    let (power, r'') := exponent? r'
    if fraction = [] && power = none then
      (decimalInteger negative whole).map fun n => (.int n, r)
    else
      let digits := Text.decimalValue (whole ++ fraction)
      .ok (.number (.ofDecimal negative digits (power.getD 0 - fraction.length)), r'')

def names : List (List Char × Value) :=
  [("null".toList, .null), ("true".toList, .bool true), ("false".toList, .bool false),
    ("NaN".toList, .number .undefined), ("Infinity".toList, .number (.infinite false)),
    ("-Infinity".toList, .number (.infinite true))]

def scalar (cs : List Char) : Except Fault (Read Char Value (cs.length - 1)) :=
  let found : Except Fault (Value × Nat) :=
    match names.find? (·.1.isPrefixOf cs) with
    | some (name, v) => .ok (v, name.length)
    | none => (number cs).map fun (v, r) => (v, cs.length - r.length)
  found.map fun (v, used) => ⟨v, cs.tail.drop (used - 1), length_drop_tail_le cs used⟩

mutual

def value (cs : List Char) : Except Fault (Read Char Value (cs.length - 1)) :=
  match cs with
  | '"' :: r => (string r).map fun s => ⟨.string s.value, s.rest, by have := s.le; simp; omega⟩
  | '[' :: r =>
    match h : skipBlanks r with
    | ']' :: r' =>
      .ok ⟨.array [], r', by
        have := length_skipBlanks_le r
        rw [h] at this
        simp at this ⊢
        omega⟩
    | _ => (items r).map fun s => ⟨.array s.value, s.rest, by have := s.le; simp; omega⟩
  | '\x7b' :: r =>
    match h : skipBlanks r with
    | '\x7d' :: r' =>
      .ok ⟨.object [], r', by
        have := length_skipBlanks_le r
        rw [h] at this
        simp at this ⊢
        omega⟩
    | _ => (fields r).map fun s => ⟨Value.ofFields s.value, s.rest, by have := s.le; simp; omega⟩
  | cs => scalar cs
termination_by 2 * cs.length
decreasing_by
  · simp
    omega
  · simp
    omega

def items (cs : List Char) : Except Fault (Read Char (List Value) cs.length) :=
  (value (skipBlanks cs)).bind fun ⟨v, r, h⟩ =>
    match h' : skipBlanks r with
    | ',' :: r' =>
      (items r').map fun s => ⟨v :: s.value, s.rest, by
        have := length_skipBlanks_le r
        have := length_skipBlanks_le cs
        have := s.le
        have := congrArg List.length h'
        simp at this
        omega⟩
    | ']' :: r' =>
      .ok ⟨[v], r', by
        have := length_skipBlanks_le r
        have := length_skipBlanks_le cs
        have := congrArg List.length h'
        simp at this
        omega⟩
    | _ => .error .malformed
termination_by 2 * cs.length + 1
decreasing_by
  · have := length_skipBlanks_le cs
    omega
  · have := length_skipBlanks_le r
    have := length_skipBlanks_le cs
    have := congrArg List.length h'
    simp at this
    omega

def fields (cs : List Char) : Except Fault (Read Char (List (String × Value)) cs.length) :=
  match h₀ : skipBlanks cs with
  | '"' :: r₀ =>
    (string r₀).bind fun ⟨name, r₁, h₁⟩ =>
      match h₂ : skipBlanks r₁ with
      | ':' :: r₂ =>
        (value (skipBlanks r₂)).bind fun ⟨v, r, h⟩ =>
          have le : r.length + 2 ≤ cs.length := by
            have := length_skipBlanks_le cs
            have := length_skipBlanks_le r₁
            have := length_skipBlanks_le r₂
            have := congrArg List.length h₀
            have := congrArg List.length h₂
            simp at *
            omega
          match h' : skipBlanks r with
          | ',' :: r' =>
            (fields r').map fun s => ⟨(name, v) :: s.value, s.rest, by
              have := length_skipBlanks_le r
              have := s.le
              have := congrArg List.length h'
              simp at this
              omega⟩
          | '\x7d' :: r' =>
            .ok ⟨[(name, v)], r', by
              have := length_skipBlanks_le r
              have := congrArg List.length h'
              simp at this
              omega⟩
          | _ => .error .malformed
      | _ => .error .malformed
  | _ => .error .malformed
termination_by 2 * cs.length + 1
decreasing_by
  · have := length_skipBlanks_le cs
    have := length_skipBlanks_le r₁
    have := length_skipBlanks_le r₂
    have := congrArg List.length h₀
    have := congrArg List.length h₂
    simp at *
    omega
  · have := length_skipBlanks_le r
    have := congrArg List.length h'
    simp at this
    omega

end

def read (text : String) : Except Fault Value :=
  (value (skipBlanks text.toList)).bind fun r =>
    if skipBlanks r.rest = [] then .ok r.value else .error .malformed

end SchemaGrammar.Document.Json
