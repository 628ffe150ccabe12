import SchemaGrammar.Document.Fault
import SchemaGrammar.Document.Read
import SchemaGrammar.Document.Value
import SchemaGrammar.Text.CodePoint

/-!
# TOML texts

A TOML text is a list of assignments under table headers. A header may open a table once, and a
table that dotted keys made is closed to headers and to the dotted keys of other sections; inline
tables and arrays are complete as they stand.
-/
namespace SchemaGrammar.Document.Toml

/-- Where a table came from, which decides who may add to it. -/
inductive Origin where
  /-- Made on the way to a header's table. -/
  | passed
  /-- Opened by a header. -/
  | header
  /-- Made by a dotted key in the section of this number. -/
  | dotted (fromSection : Nat)
  deriving DecidableEq, Repr

inductive Node where
  | value (v : Value)
  | table (origin : Origin) (fields : List (String × Node))
  /-- The tables that headers in double brackets opened, of which the last may grow. -/
  | tables (closed : List (List (String × Node))) (last : List (String × Node))
  deriving Inhabited

abbrev Fields := List (String × Node)

mutual

def Node.toValue : Node → Value
  | .value v => v
  | .table _ fields => .object (fieldValues fields)
  | .tables closed last => .array (tableValues closed ++ [.object (fieldValues last)])

def fieldValues : Fields → List (String × Value)
  | [] => []
  | (name, n) :: fields => (name, n.toValue) :: fieldValues fields

def tableValues : List Fields → List Value
  | [] => []
  | fields :: tables => .object (fieldValues fields) :: tableValues tables

end

def lookup (name : String) (fields : Fields) : Option Node :=
  (fields.find? (·.1 = name)).map (·.2)

/-- The fields with a key set, where it stood before or at the end. -/
def set (name : String) (n : Node) : Fields → Fields
  | [] => [(name, n)]
  | (k, m) :: fields => if k = name then (k, n) :: fields else (k, m) :: set name n fields

/-- Opens the table of a header in single brackets. -/
def openTable : List String → Fields → Option Fields
  | [], fields => some fields
  | [name], fields =>
    match lookup name fields with
    | none => some (set name (.table .header []) fields)
    | some (.table .passed inner) => some (set name (.table .header inner) fields)
    | some _ => none
  | name :: names, fields =>
    match lookup name fields with
    | none => (openTable names []).map fun inner => set name (.table .passed inner) fields
    | some (.table origin inner) =>
      (openTable names inner).map fun inner => set name (.table origin inner) fields
    | some (.tables closed last) =>
      (openTable names last).map fun last => set name (.tables closed last) fields
    | some (.value _) => none

/-- Opens a further table of a header in double brackets. -/
def openItem : List String → Fields → Option Fields
  | [], fields => some fields
  | [name], fields =>
    match lookup name fields with
    | none => some (set name (.tables [] []) fields)
    | some (.tables closed last) => some (set name (.tables (closed ++ [last]) []) fields)
    | some _ => none
  | name :: names, fields =>
    match lookup name fields with
    | none => (openItem names []).map fun inner => set name (.table .passed inner) fields
    | some (.table origin inner) =>
      (openItem names inner).map fun inner => set name (.table origin inner) fields
    | some (.tables closed last) =>
      (openItem names last).map fun last => set name (.tables closed last) fields
    | some (.value _) => none

/-- Assigns a value to a dotted key, relative to the table of its section. -/
def assign (fromSection : Nat) (v : Value) : List String → Fields → Option Fields
  | [], _ => none
  | [name], fields =>
    match lookup name fields with
    | none => some (set name (.value v) fields)
    | some _ => none
  | name :: names, fields =>
    match lookup name fields with
    | none =>
      (assign fromSection v names []).map fun inner =>
        set name (.table (.dotted fromSection) inner) fields
    | some (.table origin inner) =>
      if origin = .passed || origin = .dotted fromSection then
        (assign fromSection v names inner).map fun inner =>
          set name (.table (.dotted fromSection) inner) fields
      else none
    | some _ => none

def assignUnder (fromSection : Nat) (key : List String) (v : Value) :
    List String → Fields → Option Fields
  | [], fields => assign fromSection v key fields
  | name :: names, fields =>
    match lookup name fields with
    | some (.table origin inner) =>
      (assignUnder fromSection key v names inner).map fun inner =>
        set name (.table origin inner) fields
    | some (.tables closed last) =>
      (assignUnder fromSection key v names last).map fun last =>
        set name (.tables closed last) fields
    | _ => none

/-! ## Texts -/

def isBlank (c : Char) : Bool := c = ' ' || c = '\t'

def skipBlanks (cs : List Char) : List Char := cs.dropWhile isBlank

theorem length_skipBlanks_le (cs : List Char) : (skipBlanks cs).length ≤ cs.length :=
  (List.dropWhile_sublist isBlank).length_le

/-- Control characters other than the tab; `breaks` allows the line feed too. -/
def isForbidden (breaks : Bool) (c : Char) : Bool :=
  c ≠ '\t' && !(breaks && c = '\n') && (c.toNat < 32 || c.toNat = 127)

/-- The rest of the line after an optional comment; none if something else follows or the comment
holds a control character. -/
def lineRest (cs : List Char) : Option (List Char) :=
  let afterComment (cs : List Char) : Option (List Char) :=
    match cs with
    | [] => some []
    | '\n' :: r => some r
    | _ => none
  match skipBlanks cs with
  | '#' :: r =>
    if (r.takeWhile (· ≠ '\n')).any (isForbidden false) then none
    else afterComment (r.dropWhile (· ≠ '\n'))
  | r => afterComment r

/-- Skips blanks, line ends and comments, as between the items of an array; `comment` says whether a
comment is open. -/
def skipLines (comment : Bool) : (cs : List Char) → Option (Read Char Unit cs.length)
  | [] => some ⟨(), [], by simp⟩
  | c :: r =>
    if c = '\n' then (skipLines false r).map (·.weaken (by simp))
    else if comment then
      if isForbidden false c then none else (skipLines true r).map (·.weaken (by simp))
    else if isBlank c then (skipLines false r).map (·.weaken (by simp))
    else if c = '#' then (skipLines true r).map (·.weaken (by simp))
    else some ⟨(), c :: r, Nat.le_refl _⟩

/-! ## Strings and keys -/

def escaped? : Char → Option Char
  | 'b' => some '\x08'
  | 't' => some '\t'
  | 'n' => some '\n'
  | 'f' => some '\x0c'
  | 'r' => some '\r'
  | '"' => some '"'
  | '\\' => some '\\'
  | _ => none

def escapeWidth? : Char → Option Nat
  | 'u' => some 4
  | 'U' => some 8
  | _ => none

/-- An escape after its backslash: the character, and how many characters it takes. -/
def escape? (cs : List Char) : Option (Char × Nat) :=
  match cs with
  | [] => none
  | e :: r =>
    match escapeWidth? e with
    | some width =>
      let digits := r.take width
      if digits.length = width && digits.all Text.isHexDigit then
        (Text.charOf? (Text.hexValue digits)).map fun c => (c, width + 1)
      else none
    | none => (escaped? e).map fun c => (c, 1)

/-- The blanks and line ends that a backslash at the end of a line takes with it; none if the line
goes on. -/
def continuation? (cs : List Char) : Option (List Char) :=
  match skipBlanks cs with
  | [] => some []
  | '\n' :: r => some (r.dropWhile fun c => isBlank c || c = '\n')
  | _ => none

theorem length_continuation {cs r : List Char} (h : continuation? cs = some r) :
    r.length ≤ cs.length := by
  unfold continuation? at h
  have hle := length_skipBlanks_le cs
  split at h
  · cases h
    simp
  · rename_i r' hr
    cases h
    have := (List.dropWhile_sublist (l := r') fun c => isBlank c || c = '\n').length_le
    rw [hr] at hle
    simp at hle this ⊢
    omega
  · cases h

/-- A basic string after its opening quotes; `long` strings reach to three quotes, over line ends.
-/
def basicString (long : Bool) (cs : List Char) : Option (Read Char (List Char) cs.length) :=
  match cs with
  | [] => none
  | c :: r =>
    if c = '"' && !long then some ⟨[], r, by simp⟩
    else if c = '"' && ['"', '"'].isPrefixOf r then some ⟨[], r.drop 2, by simp; omega⟩
    else if c = '\\' then
      match h : if long && r.head?.any (fun c => isBlank c || c = '\n') then continuation? r
          else none with
      | some r' =>
        (basicString long r').map fun s => ⟨s.value, s.rest, by
          have hr : r'.length ≤ r.length := by
            split at h
            · exact length_continuation h
            · cases h
          have := s.le
          simp
          omega⟩
      | none =>
        (escape? r).bind fun (e, used) =>
          (basicString long (r.drop used)).map fun s =>
            ⟨e :: s.value, s.rest, by have := s.le; simp at *; omega⟩
    else if isForbidden long c then none
    else (basicString long r).map fun s => ⟨c :: s.value, s.rest, by have := s.le; simp; omega⟩
termination_by cs.length
decreasing_by
  · have hr : r'.length ≤ r.length := by
      split at h
      · exact length_continuation h
      · cases h
    simp only [List.length_cons]
    omega
  · simp only [List.length_drop, List.length_cons]
    omega
  · simp

def literalString (long : Bool) : (cs : List Char) → Option (Read Char (List Char) cs.length)
  | [] => none
  | c :: r =>
    if c = '\'' && !long then some ⟨[], r, by simp⟩
    else if c = '\'' && ['\'', '\''].isPrefixOf r then some ⟨[], r.drop 2, by simp; omega⟩
    else if isForbidden long c then none
    else (literalString long r).map fun s => ⟨c :: s.value, s.rest, by have := s.le; simp; omega⟩

/-- Up to two more quotes after the end of a long string belong to it. -/
def withQuotes {m : Nat} (q : Char) (s : Read Char (List Char) m) : Read Char (List Char) m :=
  let quotes := (s.rest.take 2).takeWhile (· = q)
  ⟨s.value ++ quotes, s.rest.drop quotes.length, by have := s.le; simp; omega⟩

/-- The text of a long string without a line end right after the opening quotes. -/
def skipFirstBreak (cs : List Char) : List Char :=
  match cs with
  | '\n' :: r => r
  | r => r

theorem length_skipFirstBreak_le (cs : List Char) : (skipFirstBreak cs).length ≤ cs.length := by
  unfold skipFirstBreak
  split <;> simp

theorem length_after_quote (r : List Char) : r.length ≤ ('"' :: r).length - 1 := Nat.le_refl _

theorem length_after_apostrophe (r : List Char) : r.length ≤ ('\'' :: r).length - 1 :=
  Nat.le_refl _

def string (cs : List Char) : Option (Read Char String (cs.length - 1)) :=
  let ofChars {m : Nat} (s : Read Char (List Char) m) : Read Char String m := s.map String.ofList
  match cs with
  | '"' :: '"' :: '"' :: r =>
    (basicString true (skipFirstBreak r)).map fun s =>
      (ofChars (withQuotes '"' s)).weaken (by have := length_skipFirstBreak_le r; simp; omega)
  | '\'' :: '\'' :: '\'' :: r =>
    (literalString true (skipFirstBreak r)).map fun s =>
      (ofChars (withQuotes '\'' s)).weaken (by have := length_skipFirstBreak_le r; simp; omega)
  | '"' :: r => (basicString false r).map fun s => (ofChars s).weaken (length_after_quote r)
  | '\'' :: r =>
    (literalString false r).map fun s => (ofChars s).weaken (length_after_apostrophe r)
  | _ => none

def isKeyChar (c : Char) : Bool := c.isAlphanum || c = '_' || c = '-'

def keyPart (cs : List Char) : Option (Read Char String (cs.length - 1)) :=
  match cs with
  | '"' :: r =>
    (basicString false r).map fun s =>
      (s.map String.ofList).weaken (length_after_quote r)
  | '\'' :: r =>
    (literalString false r).map fun s =>
      (s.map String.ofList).weaken (length_after_apostrophe r)
  | c :: r =>
    if isKeyChar c then
      some ⟨String.ofList (c :: r.takeWhile isKeyChar), r.dropWhile isKeyChar,
        (List.dropWhile_sublist isKeyChar).length_le⟩
    else none
  | [] => none

def key (cs : List Char) : Option (Read Char (List String) (cs.length - 1)) :=
  (keyPart cs).bind fun ⟨part, r, h⟩ =>
    match h' : skipBlanks r with
    | '.' :: r' =>
      (key (skipBlanks r')).map fun s => ⟨part :: s.value, s.rest, by
        have := s.le
        have := length_skipBlanks_le r
        have := length_skipBlanks_le r'
        have := congrArg List.length h'
        simp at this
        omega⟩
    | r' => some ⟨[part], r', by have := length_skipBlanks_le r; rw [h'] at this; omega⟩
termination_by cs.length
decreasing_by
  have := length_skipBlanks_le r
  have := length_skipBlanks_le r'
  have := congrArg List.length h'
  simp at this
  omega

/-! ## Numbers and dates -/

/-- The digits at the front, which may have single underscores between them, and how many
characters they take. -/
def digitRun (isDigit : Char → Bool) : List Char → List Char × Nat
  | c :: '_' :: d :: r =>
    if isDigit c then
      if isDigit d then
        let (ds, n) := digitRun isDigit (d :: r)
        (c :: ds, n + 2)
      else ([c], 1)
    else ([], 0)
  | c :: r =>
    if isDigit c then
      let (ds, n) := digitRun isDigit r
      (c :: ds, n + 1)
    else ([], 0)
  | [] => ([], 0)

def basedInteger? (base : Nat) (cs : List Char) : Option (Value × Nat) :=
  match digitRun (Text.isDigitIn base) cs with
  | ([], _) => none
  | (ds, n) => some (.int (Text.valueInBase base ds), n + 2)

/-- The digits of the part of a number that `mark` introduces, and how many characters that takes.
-/
def markedDigits (mark : Char → Bool) (cs : List Char) : List Char × Nat :=
  match cs with
  | c :: r =>
    if mark c then
      match digitRun Char.isDigit r with
      | ([], _) => ([], 0)
      | (ds, n) => (ds, n + 1)
    else ([], 0)
  | [] => ([], 0)

def exponentAt (cs : List Char) : Option Int × Nat :=
  match cs with
  | e :: '-' :: r => signed e (-1) r
  | e :: '+' :: r => signed e 1 r
  | cs =>
    match markedDigits (fun c => c = 'e' || c = 'E') cs with
    | ([], _) => (none, 0)
    | (ds, n) => (some (Text.decimalValue ds), n)
where
  signed (e : Char) (sign : Int) (r : List Char) : Option Int × Nat :=
    if e = 'e' || e = 'E' then
      match digitRun Char.isDigit r with
      | ([], _) => (none, 0)
      | (ds, n) => (some (sign * Text.decimalValue ds), n + 2)
    else (none, 0)

/-- A decimal number at the front, and how many characters it takes: an integer, or a double if
there is a fraction or an exponent. -/
def number (cs : List Char) : Except Fault (Value × Nat) :=
  let (negative, signLength, r) : Bool × Nat × List Char :=
    match cs with
    | '-' :: r => (true, 1, r)
    | '+' :: r => (false, 1, r)
    | r => (false, 0, r)
  let (whole, wholeLength) :=
    match r with
    | '0' :: _ => (['0'], 1)
    | r => digitRun Char.isDigit r
  if whole = [] then .error .malformed
  else
    let r := r.drop wholeLength
    let (fraction, fractionLength) := markedDigits (· = '.') r
    let (power, powerLength) := exponentAt (r.drop fractionLength)
    let used := signLength + wholeLength + fractionLength + powerLength
    if fraction = [] && power = none then
      (decimalInteger negative whole).map fun n => (.int n, used)
    else
      let digits := Text.decimalValue (whole ++ fraction)
      .ok (.number (.ofDecimal negative digits (power.getD 0 - fraction.length)), used)

def twoDigits? (a b : Char) : Option Nat :=
  if a.isDigit && b.isDigit then some (Text.decimalValue [a, b]) else none

def clock? (cs : List Char) : Option (Clock × Nat) :=
  match cs with
  | h₁ :: h₂ :: ':' :: m₁ :: m₂ :: ':' :: s₁ :: s₂ :: r => do
    let fraction :=
      match r with
      | '.' :: r => r.takeWhile Char.isDigit
      | _ => []
    let c : Clock :=
      ⟨← twoDigits? h₁ h₂, ← twoDigits? m₁ m₂, ← twoDigits? s₁ s₂, microseconds fraction⟩
    if c.exists then some (c, if fraction = [] then 8 else 9 + fraction.length) else none
  | _ => none

/-- The minutes that a clock is ahead of the standard time, by the zone at the front, and how many
characters that takes; there may be none. -/
def zone (cs : List Char) : Option Int × Nat :=
  match cs with
  | 'Z' :: _ => (some 0, 1)
  | 'z' :: _ => (some 0, 1)
  | s :: h₁ :: h₂ :: ':' :: m₁ :: m₂ :: _ =>
    match twoDigits? h₁ h₂, twoDigits? m₁ m₂ with
    | some h, some m =>
      let minutes : Int := 60 * h + m
      if h ≤ 23 && m ≤ 59 && s = '+' then (some minutes, 6)
      else if h ≤ 23 && m ≤ 59 && s = '-' then (some (-minutes), 6)
      else (none, 0)
    | _, _ => (none, 0)
  | _ => (none, 0)

def day? (cs : List Char) : Option Day :=
  match cs with
  | y₁ :: y₂ :: y₃ :: y₄ :: '-' :: m₁ :: m₂ :: '-' :: d₁ :: d₂ :: _ => do
    let d : Day :=
      ⟨100 * (← twoDigits? y₁ y₂) + (← twoDigits? y₃ y₄), ← twoDigits? m₁ m₂, ← twoDigits? d₁ d₂⟩
    if d.exists then some d else none
  | _ => none

def moment? (cs : List Char) : Option (Moment × Nat) :=
  match day? cs with
  | none => (clock? cs).map fun (c, n) => (.clock c, n)
  | some d =>
    match cs.drop 10 with
    | t :: r =>
      match if t = 'T' || t = 't' || t = ' ' then clock? r else none with
      | some (c, n) =>
        let (ahead, m) := zone (r.drop n)
        some (.both d c ahead, 11 + n + m)
      | none => some (.day d, 10)
    | [] => some (.day d, 10)

def names : List (List Char × Value) :=
  [("true".toList, .bool true), ("false".toList, .bool false),
    ("inf".toList, .number (.infinite false)), ("+inf".toList, .number (.infinite false)),
    ("-inf".toList, .number (.infinite true)), ("nan".toList, .number .undefined),
    ("+nan".toList, .number .undefined), ("-nan".toList, .number .undefined)]

def scalar (cs : List Char) : Except Fault (Read Char Value (cs.length - 1)) :=
  let based (base : Nat) (r : List Char) : Except Fault (Value × Nat) :=
    match basedInteger? base r with
    | some found => .ok found
    | none => number cs
  let found : Except Fault (Value × Nat) :=
    match names.find? (·.1.isPrefixOf cs) with
    | some (name, v) => .ok (v, name.length)
    | none =>
      match moment? cs with
      | some (m, n) => .ok (.moment m, n)
      | none =>
        match cs with
        | '0' :: 'x' :: r => based 16 r
        | '0' :: 'b' :: r => based 2 r
        | '0' :: 'o' :: r => based 8 r
        | cs => number cs
  found.map fun (v, used) => ⟨v, cs.tail.drop (used - 1), length_drop_tail_le cs used⟩

/-! ## Values -/

def afterEquals (cs : List Char) : Option (Read Char Unit (cs.length - 1)) :=
  match h : skipBlanks cs with
  | '=' :: r =>
    some ⟨(), skipBlanks r, by
      have := length_skipBlanks_le cs
      have := length_skipBlanks_le r
      have := congrArg List.length h
      simp at this
      omega⟩
  | _ => none

theorem length_after_bracket (r : List Char) : r.length ≤ ('[' :: r).length - 1 := Nat.le_refl _

theorem length_after_brace {r r' : List Char} (h : skipBlanks r = '\x7d' :: r') :
    r'.length ≤ r.length := by
  have hle := length_skipBlanks_le r
  rw [h] at hle
  exact Nat.le_of_succ_le hle

mutual

def value (cs : List Char) : Except Fault (Read Char Value (cs.length - 1)) :=
  match cs with
  | '[' :: r => (items r).map fun s => (s.map .array).weaken (length_after_bracket r)
  | '\x7b' :: r =>
    match h : skipBlanks r with
    | '\x7d' :: r' => .ok ⟨.object [], r', length_after_brace h⟩
    | _ =>
      (inlineFields [] (skipBlanks r)).map fun s =>
        (s.map fun fields => .object (fieldValues fields)).weaken (length_skipBlanks_le r)
  | cs =>
    if cs.head? = some '"' || cs.head? = some '\'' then
      (orMalformed (string cs)).map fun s => s.map .string
    else scalar cs
termination_by 2 * cs.length
decreasing_by
  · simp
    omega
  · have := length_skipBlanks_le r
    simp
    omega

def items (cs : List Char) : Except Fault (Read Char (List Value) cs.length) :=
  (orMalformed (skipLines false cs)).bind fun ⟨_, r₀, h₀⟩ =>
    if r₀.head? = some ']' then .ok ⟨[], r₀.tail, by simp; omega⟩
    else
      (value r₀).bind fun ⟨v, r₁, h₁⟩ =>
        (orMalformed (skipLines false r₁)).bind fun ⟨_, r₂, h₂⟩ =>
          if r₂.head? = some ']' then .ok ⟨[v], r₂.tail, by simp; omega⟩
          else if _h : r₂.head? = some ',' then
            (items r₂.tail).map fun s => ⟨v :: s.value, s.rest, by
              have := s.le
              simp at this
              omega⟩
          else .error .malformed
termination_by 2 * cs.length + 1
decreasing_by
  · omega
  · cases r₂ with
    | nil => cases _h
    | cons c r =>
      simp at h₂ ⊢
      omega

def inlineFields (before : Fields) (cs : List Char) : Except Fault (Read Char Fields cs.length) :=
  (orMalformed (key cs)).bind fun ⟨name, r₀, h₀⟩ =>
    (orMalformed (afterEquals r₀)).bind fun ⟨_, r₁, h₁⟩ =>
      (value r₁).bind fun ⟨v, r₂, h₂⟩ =>
        (orMalformed (assign 0 v name before)).bind fun fields =>
          match h : skipBlanks r₂ with
          | '\x7d' :: r =>
            .ok ⟨fields, r, by
              have := length_skipBlanks_le r₂
              have := congrArg List.length h
              simp at this
              omega⟩
          | ',' :: r =>
            (inlineFields fields (skipBlanks r)).map fun s => ⟨s.value, s.rest, by
              have := s.le
              have := length_skipBlanks_le r
              have := length_skipBlanks_le r₂
              have := congrArg List.length h
              simp at this
              omega⟩
          | _ => .error .malformed
termination_by 2 * cs.length + 1
decreasing_by
  · omega
  · have := length_skipBlanks_le r
    have := length_skipBlanks_le r₂
    have := congrArg List.length h
    simp at this
    omega

end

/-! ## Documents -/

/-- A document as far as it is read: its fields, the header in force, and how many headers came. -/
structure Progress where
  fields : Fields
  header : List String
  sections : Nat

def header (p : Progress) (brackets cs : List Char)
    (openAt : List String → Fields → Option Fields) : Except Fault (Progress × List Char) :=
  orMalformed do
    let s ← key (skipBlanks cs)
    let fields ← openAt s.value p.fields
    if brackets.isPrefixOf s.rest then
      some (⟨fields, s.value, p.sections + 1⟩, s.rest.drop brackets.length)
    else none

def statement (p : Progress) (cs : List Char) : Except Fault (Progress × List Char) :=
  match cs with
  | '[' :: '[' :: r => header p [']', ']'] r openItem
  | '[' :: r => header p [']'] r openTable
  | cs => do
    let s ← orMalformed (key cs)
    let t ← orMalformed (afterEquals s.rest)
    let v ← value t.rest
    let fields ← orMalformed (assignUnder p.sections s.value v.value p.header p.fields)
    return ({ p with fields }, v.rest)

/-- Reads statements line by line; every statement uses up characters, so `fuel` may be the number
of characters. -/
def statements (fuel : Nat) (p : Progress) (cs : List Char) : Except Fault Fields :=
  match fuel, skipBlanks cs with
  | _, [] => .ok p.fields
  | 0, _ => .error .malformed
  | fuel + 1, '\n' :: r => statements fuel p r
  | fuel + 1, '#' :: r => (orMalformed (lineRest ('#' :: r))).bind (statements fuel p)
  | fuel + 1, r =>
    (statement p r).bind fun (p, r) => (orMalformed (lineRest r)).bind (statements fuel p)

def read (text : String) : Except Fault Value :=
  let cs := text.toList
  (statements cs.length ⟨[], [], 0⟩ cs).map fun fields => .object (fieldValues fields)

end SchemaGrammar.Document.Toml
