import SchemaGrammar.Source.StringLiteral

/-!
# The tokens of a text

A text is read token by token, skipping blanks and comments. Words reach as far as they can; the
list ends with the mark for the end of the text.
-/
namespace SchemaGrammar.Source

def isWordPart (c : Char) : Bool := Text.isLetterOrNumber c || c = '_' || c = '$'

def isWordStart (c : Char) : Bool := Text.isLetter c || c = '_' || c = '$'

def isNumberPart (c : Char) : Bool := Text.isLetterOrNumber c || c = '.' || c = '_'

def word (p : Char → Bool) (cs : List Char) : Scan String :=
  let taken := cs.takeWhile p
  ⟨.ok (String.ofList taken), taken.length⟩

def wordKind (value : String) : TokenKind :=
  match Keyword.ofText? value with
  | some w => .keyword w
  | none => .identifier

/-- The scan of a token that is no string: its kind and its characters after the first. -/
def plainToken (c : Char) (r : List Char) : TokenKind × List Char :=
  if Text.isDigit c then (.number, r.takeWhile isNumberPart)
  else if isWordStart c then
    let taken := r.takeWhile isWordPart
    (wordKind (String.ofList (c :: taken)), taken)
  else
    match Mark.ofChar? c with
    | some m => (.mark m, [])
    | none => (.symbol, [])

def isQuote (c : Char) : Bool := c = '"' || c = '\'' || c = '\x60'

def tokenScan (c : Char) (r : List Char) : Scan (TokenKind × String) :=
  if isQuote c then
    let s := stringLiteral (c :: r)
    ⟨s.outcome.map (TokenKind.string, ·), s.used⟩
  else
    let (kind, taken) := plainToken c r
    ⟨.ok (kind, String.ofList (c :: taken)), taken.length + 1⟩

theorem one_le_used_tokenScan (c : Char) (r : List Char) : 1 ≤ (tokenScan c r).used := by
  unfold tokenScan
  split
  · simp only [stringLiteral]
    split
    · split <;> simp
    · simp
    · simp
  · simp

/-- The tokens read from a cursor on, the fault that stopped the reading, and where it stopped. -/
structure TokenRun where
  tokens : List Token
  fault : Option Fault
  cursor : Cursor

def Cursor.tokens (c : Cursor) : TokenRun :=
  let next := (c.take trivia).2
  match (c.take trivia).1 with
  | .error e => ⟨[], some e, next⟩
  | .ok () =>
    match _h : next.rest with
    | [] => ⟨[Token.atEnd next.position], none, next⟩
    | x :: r =>
      let after := next.forward (tokenScan x r).used
      match (next.take fun _ => tokenScan x r).1 with
      | .error e => ⟨[], some e, after⟩
      | .ok (kind, value) =>
        let run := after.tokens
        { run with tokens := ⟨kind, value, next.position⟩ :: run.tokens }
termination_by c.rest.length
decreasing_by
  have hused := one_le_used_tokenScan x r
  have hnext : (c.take trivia).2.rest = c.rest.drop (trivia c.rest).used := by
    simp [Cursor.take]
  rw [Cursor.rest_forward]
  have h' : (c.take trivia).2.rest = x :: r := _h
  have hlen := congrArg List.length (hnext.symm.trans h')
  rw [h']
  simp at hlen ⊢
  omega

def tokens (text : String) : Except Fault (List Token) :=
  let run := (Cursor.start text).tokens
  match run.fault with
  | some e => .error e
  | none => .ok run.tokens

/-- A cursor, and the tokens read so far. -/
structure TextReader where
  cursor : Cursor
  tokens : List Token

namespace TextReader

def start (text : String) : TextReader := ⟨Cursor.start text, []⟩

/-- Reads on to the end of the text or the first fault, keeping the tokens read before. -/
def readTokens (r : TextReader) : Except Fault Unit × TextReader :=
  let run := r.cursor.tokens
  (match run.fault with
    | some e => .error e
    | none => .ok (),
   ⟨run.cursor, r.tokens ++ run.tokens⟩)

end TextReader

end SchemaGrammar.Source
