import SchemaGrammar.Schema
import SchemaGrammar.Source.Part

/-!
# Types in source

A type is one or more alternatives after bars, with an optional bar in front. An alternative is a
name with dots, then type arguments between angle brackets, then any number of `[]`. Its spelling is
written the same way whatever blanks the source has.
-/
namespace SchemaGrammar.Source

def refusedType? (owner : String) : TokenKind → Option FaultCause
  | .mark .openBrace => some (.objectType owner)
  | .string => some (.literalType owner)
  | .number => some (.literalType owner)
  | .mark .minus => some (.literalType owner)
  | .mark .openParen => some (.parenthesizedType owner)
  | _ => none

def dottedNames (spelling : String) (ts : List Token) : Part String ts.length :=
  match ts with
  | [] => .read spelling [] length_nil_le
  | t :: r =>
    if t.kind = .mark .dot then
      (takeName r).andThen fun name r₁ h₁ =>
        (dottedNames (spelling ++ "." ++ name.value) r₁).weaken (length_le_cons_of_le_pred t h₁)
    else .read spelling (t :: r) (length_cons_le t r)
termination_by ts.length
decreasing_by simp; omega

def arrayMarks (spelling : String) (ts : List Token) : Part String ts.length :=
  match ts with
  | [] => .read spelling [] length_nil_le
  | t :: r =>
    if t.kind = .mark .openBracket then
      (takeKind (.mark .closeBracket) r).andThen fun _ r₁ h₁ =>
        (arrayMarks (spelling ++ "[]") r₁).weaken (length_le_cons_of_le_pred t h₁)
    else .read spelling (t :: r) (length_cons_le t r)
termination_by ts.length
decreasing_by simp; omega

def skipBar (ts : List Token) : List Token :=
  match ts with
  | [] => []
  | t :: r => if t.kind = .mark .bar then r else t :: r

theorem length_skipBar_le (ts : List Token) : (skipBar ts).length ≤ ts.length := by
  unfold skipBar
  split
  · simp
  · split <;> simp

mutual

def typeExpr (owner : String) (ts : List Token) : Part TypeExpr (ts.length - 1) :=
  (typeAtom owner (skipBar ts)).andThen fun first r₁ h₁ =>
  (alternatives owner r₁).andThen fun others r₂ h₂ =>
    if headKind r₂ = .mark .ampersand then .fault (.intersectionType owner) r₂
    else .read ⟨first, others⟩ r₂ (by have := length_skipBar_le ts; omega)
termination_by 3 * ts.length + 2
decreasing_by
  · have := length_skipBar_le ts
    omega
  · have := length_skipBar_le ts
    omega

def alternatives (owner : String) (ts : List Token) : Part (List String) ts.length :=
  match ts with
  | [] => .read [] [] length_nil_le
  | t :: r =>
    if t.kind = .mark .bar then
      (typeAtom owner r).andThen fun spelling r₁ h₁ =>
      (alternatives owner r₁).andThen fun spellings r₂ h₂ =>
        .read (spelling :: spellings) r₂ (by simp; omega)
    else .read [] (t :: r) (length_cons_le t r)
termination_by 3 * ts.length
decreasing_by
  · simp
    omega
  · simp
    omega

def typeAtom (owner : String) (ts : List Token) : Part String (ts.length - 1) :=
  match refusedType? owner (headKind ts) with
  | some cause => .fault cause ts
  | none =>
    (takeName ts).andThen fun name r₁ h₁ =>
    (dottedNames name.value r₁).andThen fun spelling r₂ h₂ =>
    (typeArguments owner spelling r₂).andThen fun spelling r₃ h₃ =>
      (arrayMarks spelling r₃).weaken (by omega)
termination_by 3 * ts.length + 1
decreasing_by omega

def typeArguments (owner : String) (spelling : String) (ts : List Token) : Part String ts.length :=
  match ts with
  | [] => .read spelling [] length_nil_le
  | t :: r =>
    if t.kind = .mark .openAngle then
      (typeExpr owner r).andThen fun first r₁ h₁ =>
      (moreArguments owner r₁).andThen fun others r₂ h₂ =>
      (takeKind (.mark .closeAngle) r₂).andThen fun _ r₃ h₃ =>
        .read (spelling ++ "<" ++ ", ".intercalate (first.text :: others) ++ ">") r₃
          (by simp; omega)
    else .read spelling (t :: r) (length_cons_le t r)
termination_by 3 * ts.length
decreasing_by
  · simp
    omega
  · simp
    omega

def moreArguments (owner : String) (ts : List Token) : Part (List String) ts.length :=
  match ts with
  | [] => .read [] [] length_nil_le
  | t :: r =>
    if t.kind = .mark .comma then
      (typeExpr owner r).andThen fun type r₁ h₁ =>
      (moreArguments owner r₁).andThen fun types r₂ h₂ =>
        .read (type.text :: types) r₂ (by simp; omega)
    else .read [] (t :: r) (length_cons_le t r)
termination_by 3 * ts.length
decreasing_by
  · simp
    omega
  · simp
    omega

end

end SchemaGrammar.Source
