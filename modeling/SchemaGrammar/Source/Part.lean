import SchemaGrammar.Rest
import SchemaGrammar.Source.Fault

/-!
# Parts of a token list

Declarations are read from a list of tokens, the mark for the end left out. Reading a part gives its
value and the tokens after it, whose number is bounded, so that reading part after part ends. A
fault concerns the first token that is left, or the end if none is.
-/
namespace SchemaGrammar.Source

/-- The outcome of reading a part: at most `bound` tokens are left after it. -/
inductive Part (α : Type) (bound : Nat) where
  | read (value : α) (rest : List Token) (le : rest.length ≤ bound)
  | fault (cause : FaultCause) (rest : List Token)

namespace Part

variable {α β : Type} {m n : Nat}

def andThen (p : Part α m) (next : α → (ts : List Token) → ts.length ≤ m → Part β n) : Part β n :=
  match p with
  | read a ts h => next a ts h
  | fault cause ts => fault cause ts

def weaken (p : Part α m) (h : m ≤ n) : Part α n :=
  p.andThen fun a ts ht => read a ts (Nat.le_trans ht h)

def map (f : α → β) (p : Part α m) : Part β m :=
  p.andThen fun a ts h => read (f a) ts h

def rest : Part α m → List Token
  | read _ ts _ => ts
  | fault _ ts => ts

def outcome : Part α m → Except FaultCause α
  | read a _ _ => .ok a
  | fault cause _ => .error cause

end Part

/-- The kind of the first token; no token is left at the end. -/
def headKind : List Token → TokenKind
  | [] => .endMark
  | t :: _ => t.kind

def headShown : List Token → String
  | [] => TokenKind.endMark.text
  | t :: _ => t.shown

/-- Where the first token stands, in a text that ends at `finish`. -/
def headPosition (finish : Position) : List Token → Position
  | [] => finish
  | t :: _ => t.position

def takeKind (kind : TokenKind) (ts : List Token) : Part Token (ts.length - 1) :=
  match ts with
  | [] => .fault (.expectedToken kind (headShown [])) []
  | t :: r =>
    if t.kind = kind then .read t r (length_le_pred_cons t r)
    else .fault (.expectedToken kind t.shown) (t :: r)

def takeName (ts : List Token) : Part Token (ts.length - 1) :=
  match ts with
  | [] => .fault (.expectedName (headShown [])) []
  | t :: r =>
    if t.kind.isName then .read t r (length_le_pred_cons t r)
    else .fault (.expectedName t.shown) (t :: r)

def takeMemberName (ts : List Token) : Part Token (ts.length - 1) :=
  match ts with
  | [] => takeName []
  | t :: r =>
    if t.kind = .string then .read t r (length_le_pred_cons t r) else takeName (t :: r)

def skipKinds (kinds : List TokenKind) (ts : List Token) : List Token :=
  ts.dropWhile (kinds.contains ·.kind)

theorem length_skipKinds_le (kinds : List TokenKind) (ts : List Token) :
    (skipKinds kinds ts).length ≤ ts.length := (List.dropWhile_sublist _).length_le

end SchemaGrammar.Source
