import SchemaGrammar.Rest

/-!
# Reading from the front

Readers take what they want from the front of a list and give the rest, whose length is bounded, so
that readers that call one another end.
-/
namespace SchemaGrammar.Document

/-- A value that was read, and what is left after it. -/
structure Read (τ α : Type) (bound : Nat) where
  value : α
  rest : List τ
  le : rest.length ≤ bound

namespace Read

variable {τ α β : Type} {m n : Nat}

def map (f : α → β) (r : Read τ α m) : Read τ β m := ⟨f r.value, r.rest, r.le⟩

def weaken (r : Read τ α m) (h : m ≤ n) : Read τ α n := ⟨r.value, r.rest, Nat.le_trans r.le h⟩

end Read

end SchemaGrammar.Document
