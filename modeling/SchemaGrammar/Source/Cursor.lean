import SchemaGrammar.Source.Fault

/-!
# Cursors

A cursor stands between two characters of a text and knows its line and column. Scanners work on the
characters that lie ahead and say how many they use; the cursor then moves over those.
-/
namespace SchemaGrammar.Source

/-- The outcome of scanning: a value, or a cause and how many characters stand before the place at
fault; and how many characters were used in either case. -/
structure Scan (α : Type) where
  outcome : Except (FaultCause × Nat) α
  used : Nat

structure Cursor where
  rest : List Char
  offset : Nat
  position : Position
  deriving DecidableEq, Repr

namespace Cursor

def start (text : String) : Cursor := ⟨text.toList, 0, Position.start⟩

def current? (c : Cursor) : Option Char := c.rest.head?

def peek? (c : Cursor) (n : Nat) : Option Char := c.rest[n]?

/-- Over one character; the end stays the end. -/
def advance (c : Cursor) : Cursor :=
  match c.rest with
  | [] => c
  | x :: r => ⟨r, c.offset + 1, c.position.step x⟩

def forward : Nat → Cursor → Cursor
  | 0, c => c
  | n + 1, c => forward n c.advance

def take {α : Type} (c : Cursor) (scan : List Char → Scan α) : Except Fault α × Cursor :=
  let s := scan c.rest
  (match s.outcome with
    | .ok a => .ok a
    | .error (cause, n) => .error ⟨cause, (c.forward n).position⟩,
   c.forward s.used)

theorem rest_advance (c : Cursor) : c.advance.rest = c.rest.drop 1 := by
  unfold advance
  split <;> simp_all

@[simp] theorem rest_forward (n : Nat) (c : Cursor) : (c.forward n).rest = c.rest.drop n := by
  induction n generalizing c with
  | zero => rfl
  | succ n ih => rw [forward, ih, rest_advance, List.drop_drop, Nat.add_comm]

end Cursor

end SchemaGrammar.Source
