import SchemaGrammar.Source.Types

/-!
# Interfaces in source

An interface is a name, type parameters, and properties between braces. Properties are separated by
semicolons, commas or nothing; each is a name, a colon and a type, perhaps after `readonly`.
-/
namespace SchemaGrammar.Source

/-- Reads the rest of a type parameter list, the closing bracket included, and gives the names that
follow commas. What a parameter extends or defaults to may hold angle brackets of its own. -/
def moreParameters (depth : Nat) (ts : List Token) : Part (List String) ts.length :=
  match ts with
  | [] => .fault .unterminatedParameters []
  | t :: r =>
    if t.kind = .mark .openAngle then (moreParameters (depth + 1) r).weaken (length_le_cons t r)
    else if t.kind = .mark .closeAngle then
      if depth = 0 then .read [] r (length_le_cons t r)
      else (moreParameters (depth - 1) r).weaken (length_le_cons t r)
    else if t.kind = .mark .comma && depth = 0 then
      (takeName r).andThen fun name r₁ h₁ =>
        ((moreParameters 0 r₁).map (name.value :: ·)).weaken (length_le_cons_of_le_pred t h₁)
    else (moreParameters depth r).weaken (length_le_cons t r)
termination_by ts.length
decreasing_by
  all_goals simp
  all_goals omega

def typeParameters (ts : List Token) : Part (List String) ts.length :=
  match ts with
  | [] => .read [] [] length_nil_le
  | t :: r =>
    if t.kind = .mark .openAngle then
      (takeName r).andThen fun name r₁ h₁ =>
        ((moreParameters 0 r₁).map (name.value :: ·)).weaken (length_le_cons_of_le_pred t h₁)
    else .read [] (t :: r) (length_cons_le t r)

/-- The tokens without a `readonly` in front that is not itself the name of a property. -/
def skipReadonly (ts : List Token) : List Token :=
  match ts with
  | [] => []
  | t :: r =>
    if t.kind = .keyword .readonlyWord && headKind r ≠ .mark .colon && headKind r ≠ .mark .question
    then r else t :: r

theorem length_skipReadonly_le (ts : List Token) : (skipReadonly ts).length ≤ ts.length := by
  unfold skipReadonly
  split
  · simp
  · split <;> simp

/-- Why no type follows the name of a property, by the kind of the token after it. -/
def refusedProperty? (owner : String) : TokenKind → Option FaultCause
  | .mark .question => some (.optionalProperty owner)
  | .mark .openParen => some (.methodSignature owner)
  | .mark .openAngle => some (.methodSignature owner)
  | .mark .colon => none
  | _ => some (.missingType owner)

def locate (file : Path) (p : Position) : Location := ⟨file.text, p.line, p.column⟩

theorem length_le_of_tail {ts ts' r₁ r₂ : List Token} (h : ts'.length ≤ ts.length)
    (h₁ : r₁.length ≤ ts'.length - 1) (h₂ : r₂.length ≤ r₁.tail.length - 1) :
    r₂.length ≤ ts.length - 1 := by
  rw [List.length_tail] at h₂
  omega

def property (file : Path) (record : String) (ts : List Token) : Part Property (ts.length - 1) :=
  let ts' := skipReadonly ts
  have le : ts'.length ≤ ts.length := length_skipReadonly_le ts
  if headKind ts' = .mark .openBracket then .fault (.indexSignature record) ts'
  else
    (takeMemberName ts').andThen fun name r₁ h₁ =>
      let owner := record ++ "." ++ name.value
      match refusedProperty? owner (headKind r₁) with
      | some cause => .fault cause r₁
      | none =>
        (typeExpr owner r₁.tail).andThen fun type r₂ h₂ =>
          .read ⟨name.value, type, some (locate file name.position)⟩ r₂
            (length_le_of_tail le h₁ h₂)

def properties (file : Path) (record : String) (ts : List Token) :
    Part (List Property) ts.length :=
  match ts with
  | [] => .fault (.unterminatedInterface record) []
  | t :: r =>
    if t.kind = .mark .closeBrace then .read [] (t :: r) (length_cons_le t r)
    else
      (property file record (t :: r)).andThen fun p r₁ h₁ =>
      (properties file record (skipKinds [.mark .semicolon, .mark .comma] r₁)).andThen
        fun ps r₂ h₂ => .read (p :: ps) r₂ (by
          have := length_skipKinds_le [.mark .semicolon, .mark .comma] r₁
          simp at h₁ ⊢
          omega)
termination_by ts.length
decreasing_by
  have := length_skipKinds_le [.mark .semicolon, .mark .comma] r₁
  simp at h₁ ⊢
  omega

def interface (file : Path) (start : Position) (ts : List Token) : Part Record (ts.length - 1) :=
  (takeKind (.keyword .interfaceWord) ts).andThen fun _ r₁ h₁ =>
  (takeName r₁).andThen fun name r₂ h₂ =>
  (typeParameters r₂).andThen fun parameters r₃ h₃ =>
    if headKind r₃ = .keyword .extendsWord then .fault (.extendsClause name.value) r₃
    else
      (takeKind (.mark .openBrace) r₃).andThen fun _ r₄ h₄ =>
      (properties file name.value r₄).andThen fun ps r₅ h₅ =>
      (takeKind (.mark .closeBrace) r₅).andThen fun _ r₆ h₆ =>
        .read ⟨name.value, ps, parameters, some (locate file start)⟩ r₆ (by omega)

end SchemaGrammar.Source
