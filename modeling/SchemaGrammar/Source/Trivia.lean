import SchemaGrammar.Source.Cursor
import SchemaGrammar.Text.CharClass

/-!
# Blanks and comments

Between tokens there may be blanks, comments from `//` to the end of the line, and comments from
`/*` to the first `*/`.
-/
namespace SchemaGrammar.Source

def commentEnd? : List Char → Option Nat
  | [] => none
  | '*' :: '/' :: _ => some 2
  | _ :: r => (commentEnd? r).map (· + 1)

/-- The scan `s`, seen from `n` characters before. -/
def Scan.after {α : Type} (n : Nat) (s : Scan α) : Scan α where
  outcome :=
    match s.outcome with
    | .ok a => .ok a
    | .error (cause, k) => .error (cause, k + n)
  used := s.used + n

/-- Reads blanks and comments. A comment that never closes is a fault at its first character. -/
def trivia (cs : List Char) : Scan Unit :=
  match cs with
  | '/' :: '/' :: r =>
    (trivia (r.dropWhile (· ≠ '\n'))).after (2 + (r.takeWhile (· ≠ '\n')).length)
  | '/' :: '*' :: r =>
    match commentEnd? r with
    | none => ⟨.error (.unterminatedComment, 0), 2 + r.length⟩
    | some n => (trivia (r.drop n)).after (2 + n)
  | c :: r => if Text.isBlank c then (trivia r).after 1 else ⟨.ok (), 0⟩
  | [] => ⟨.ok (), 0⟩
termination_by cs.length
decreasing_by
  · have := (List.dropWhile_sublist (l := r) (· ≠ '\n')).length_le
    simp at this ⊢
    omega
  · simp
    omega
  · simp

end SchemaGrammar.Source
