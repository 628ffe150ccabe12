import SchemaGrammar.Source.Records

/-!
# Enumerations in source

An enumeration is a name and members between braces, separated by commas. A member has a value only
if its initializer is one string token; any other initializer is kept as the texts of its tokens.
-/
namespace SchemaGrammar.Source

def depthAfter (depth : Int) (kind : TokenKind) : Int :=
  if kind.opens then depth + 1 else if kind.closes then depth - 1 else depth

/-- Reads the values of the tokens up to a comma or closing brace outside brackets. -/
def initializerParts (depth : Int) (ts : List Token) : Part (List String) ts.length :=
  match ts with
  | [] => .fault .unterminatedInitializer []
  | t :: r =>
    if depth = 0 && (t.kind = .mark .comma || t.kind = .mark .closeBrace) then
      .read [] (t :: r) (length_cons_le t r)
    else
      ((initializerParts (depthAfter depth t.kind) r).map (t.value :: ·)).weaken
        (length_le_cons t r)

/-- Reads an initializer and gives the texts of its tokens with spaces between them. -/
def initializer (ts : List Token) : Part String ts.length :=
  (initializerParts 0 ts).map " ".intercalate

/-- The string and the tokens after it, if a comma or closing brace follows it. -/
def loneString? (ts : List Token) : Option (String × List Token) :=
  match ts with
  | t :: r =>
    if t.kind = .string && (headKind r = .mark .comma || headKind r = .mark .closeBrace) then
      some (t.value, r)
    else none
  | [] => none

theorem length_loneString {ts r : List Token} {s : String} (h : loneString? ts = some (s, r)) :
    r.length ≤ ts.length := by
  unfold loneString? at h
  split at h
  · split at h
    · cases h
      simp
    · cases h
  · cases h

theorem length_loneString_cons (t : Token) {ts r : List Token} {s : String}
    (h : loneString? ts = some (s, r)) : r.length ≤ (t :: ts).length :=
  Nat.le_trans (length_loneString h) (length_le_cons t ts)

def memberValue (ts : List Token) : Part (Option String × Option String) ts.length :=
  match ts with
  | [] => .read (none, none) [] length_nil_le
  | t :: r =>
    if t.kind = .mark .equals then
      match h : loneString? r with
      | some (value, r₁) =>
        .read (some value, none) r₁ (length_loneString_cons t h)
      | none => ((initializer r).map fun text => (none, some text)).weaken (length_le_cons t r)
    else .read (none, none) (t :: r) (length_cons_le t r)

def memberEnd (ts : List Token) : Part Unit ts.length :=
  if headKind ts = .mark .closeBrace then .read () ts (by simp)
  else ((takeKind (.mark .comma) ts).map fun _ => ()).weaken (by omega)

def members (enumeration : String) (ts : List Token) : Part (List Member) ts.length :=
  match ts with
  | [] => .fault (.unterminatedEnumeration enumeration) []
  | t :: r =>
    if t.kind = .mark .closeBrace then .read [] (t :: r) (length_cons_le t r)
    else
      (takeMemberName (t :: r)).andThen fun name r₁ h₁ =>
      (memberValue r₁).andThen fun (value, initializer) r₂ h₂ =>
      (memberEnd r₂).andThen fun _ r₃ h₃ =>
      (members enumeration r₃).andThen fun ms r₄ h₄ =>
        .read (⟨name.value, value, initializer⟩ :: ms) r₄ (by simp at h₁ ⊢; omega)
termination_by ts.length
decreasing_by simp at h₁ ⊢; omega

def enumeration (file : Path) (start : Position) (ts : List Token) :
    Part Enumeration (ts.length - 1) :=
  (takeKind (.keyword .enumWord) ts).andThen fun _ r₁ h₁ =>
  (takeName r₁).andThen fun name r₂ h₂ =>
  (takeKind (.mark .openBrace) r₂).andThen fun _ r₃ h₃ =>
  (members name.value r₃).andThen fun ms r₄ h₄ =>
  (takeKind (.mark .closeBrace) r₄).andThen fun _ r₅ h₅ =>
    .read ⟨name.value, ms, some (locate file start)⟩ r₅ (by omega)

end SchemaGrammar.Source
