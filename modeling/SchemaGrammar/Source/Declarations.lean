import SchemaGrammar.Source.Enumerations
import SchemaGrammar.Source.Tokens

/-!
# Declarations in source

A source is a list of declarations, with semicolons between them allowed. Interfaces and
enumerations are read; a declaration of another kind is passed over up to its end, which is a
semicolon, the closing brace of its body, or a later line that begins a declaration.
-/
namespace SchemaGrammar.Source

/-- What messages call the declarations that a keyword begins and that are passed over. -/
def otherKind? : TokenKind → Option String
  | .keyword .typeWord => some "type alias"
  | .keyword .classWord => some "class"
  | .keyword .abstractWord => some "class"
  | .keyword .functionWord => some "function"
  | .keyword .constWord => some "variable"
  | .keyword .letWord => some "variable"
  | .keyword .varWord => some "variable"
  | .keyword .namespaceWord => some "namespace"
  | .keyword .moduleWord => some "namespace"
  | .keyword .importWord => some "import"
  | _ => none

def endsWithBody (kind : String) : Bool :=
  kind = "class" || kind = "function" || kind = "namespace"

def beginsDeclaration (kind : TokenKind) : Bool :=
  kind = .keyword .interfaceWord || kind = .keyword .enumWord || kind = .keyword .exportWord ||
    kind = .keyword .declareWord || (otherKind? kind).isSome

/-- Whether an opening brace after a token of a kind begins an object type and not a body. -/
def beginsObjectType (kind : TokenKind) : Bool :=
  kind = .mark .colon || kind = .mark .bar || kind = .mark .ampersand

structure Passage where
  depth : Int
  previous : Option TokenKind
  inObjectType : Bool

/-- The tokens after a declaration whose keyword stands on `line`; `body` says whether it ends with
its body. -/
def passOver (body : Bool) (line : Nat) (p : Passage) : List Token → List Token
  | [] => []
  | t :: r =>
    if p.depth = 0 && t.kind = .mark .semicolon then r
    else if p.depth = 0 && beginsDeclaration t.kind && line < t.position.line then t :: r
    else
      let inObjectType :=
        if p.depth = 0 && t.kind = .mark .openBrace then p.previous.any beginsObjectType
        else p.inObjectType
      let depth := depthAfter p.depth t.kind
      if depth = 0 && t.kind = .mark .closeBrace && body then
        if inObjectType then passOver body line ⟨depth, some t.kind, false⟩ r else r
      else passOver body line ⟨depth, some t.kind, inObjectType⟩ r

theorem length_passOver_le (body : Bool) (line : Nat) (p : Passage) (ts : List Token) :
    (passOver body line p ts).length ≤ ts.length := by
  induction ts generalizing p with
  | nil => simp [passOver]
  | cons t r ih =>
    rw [passOver]
    dsimp only
    repeat' split
    all_goals first
      | exact Nat.le_succ_of_le (ih _)
      | simp

/-- The tokens without a `class` in front, if it follows `abstract`. -/
def skipClassWord (keyword : Token) (ts : List Token) : List Token :=
  match ts with
  | [] => []
  | t :: r =>
    if keyword.kind = .keyword .abstractWord && t.kind = .keyword .classWord then r else t :: r

theorem length_skipClassWord_le (keyword : Token) (ts : List Token) :
    (skipClassWord keyword ts).length ≤ ts.length := by
  unfold skipClassWord
  split
  · simp
  · split <;> simp

def headIdentifier? : List Token → Option String
  | [] => none
  | t :: _ => if t.kind = .identifier then some t.value else none

def otherDeclaration (file : Path) (start : Position) (kind : String) (keyword : Token)
    (ts : List Token) : Part OtherDeclaration ts.length :=
  let ts' := skipClassWord keyword ts
  .read ⟨kind, headIdentifier? ts', some (locate file start)⟩
    (passOver (endsWithBody kind) keyword.position.line ⟨0, none, false⟩ ts')
    (Nat.le_trans (length_passOver_le _ _ _ _) (length_skipClassWord_le keyword ts))

def modifiers : List TokenKind :=
  [.keyword .exportWord, .keyword .declareWord, .keyword .defaultWord]

/-- Reads a declaration with its modifiers; it is located at its first token. -/
def declaration (file : Path) (ts : List Token) : Part Declaration (ts.length - 1) :=
  match ts with
  | [] => .fault (.expectedDeclaration (headShown [])) []
  | first :: r =>
    let start := first.position
    match h : skipKinds modifiers (first :: r) with
    | [] => .fault (.expectedDeclaration (headShown [])) []
    | t :: r₁ =>
      have le : (t :: r₁).length ≤ (first :: r).length := h ▸ length_skipKinds_le _ _
      if t.kind = .keyword .interfaceWord then
        ((interface file start (t :: r₁)).map .record).weaken (by omega)
      else if t.kind = .keyword .enumWord then
        ((enumeration file start (t :: r₁)).map .enumeration).weaken (by omega)
      else if t.kind = .keyword .constWord && headKind r₁ = .keyword .enumWord then
        ((enumeration file start r₁).map .enumeration).weaken (by simp at le ⊢; omega)
      else
        match otherKind? t.kind with
        | some kind =>
          ((otherDeclaration file start kind t r₁).map .other).weaken (by simp at le ⊢; omega)
        | none => .fault (.expectedDeclaration t.shown) (t :: r₁)

theorem declaration_of_nil (file : Path) {ts : List Token} (h : skipKinds modifiers ts = []) :
    declaration file ts = .fault (.expectedDeclaration (headShown [])) [] := by
  cases ts with
  | nil => rfl
  | cons first r =>
    rw [declaration]
    dsimp only
    split
    · rfl
    · next heq => cases h.symm.trans heq

theorem declaration_of_cons (file : Path) {first t : Token} {r r₁ : List Token}
    (h : skipKinds modifiers (first :: r) = t :: r₁) (le : r₁.length ≤ (first :: r).length - 1) :
    declaration file (first :: r) =
      if t.kind = .keyword .interfaceWord then
        ((interface file first.position (t :: r₁)).map .record).weaken le
      else if t.kind = .keyword .enumWord then
        ((enumeration file first.position (t :: r₁)).map .enumeration).weaken le
      else if t.kind = .keyword .constWord && headKind r₁ = .keyword .enumWord then
        ((enumeration file first.position r₁).map .enumeration).weaken
          (Nat.le_trans (Nat.sub_le _ _) le)
      else
        match otherKind? t.kind with
        | some kind => ((otherDeclaration file first.position kind t r₁).map .other).weaken le
        | none => .fault (.expectedDeclaration t.shown) (t :: r₁) := by
  rw [declaration]
  dsimp only
  split
  · next heq => cases h.symm.trans heq
  · next heq =>
    cases h.symm.trans heq
    rfl

def declarations (file : Path) (ts : List Token) : Part (List Declaration) ts.length :=
  match h : skipKinds [.mark .semicolon] ts with
  | [] => .read [] [] (by simp)
  | t :: r =>
    have le : (t :: r).length ≤ ts.length := h ▸ length_skipKinds_le _ _
    (declaration file (t :: r)).andThen fun d r₁ h₁ =>
    (declarations file r₁).andThen fun ds r₂ h₂ => .read (d :: ds) r₂ (by simp at h₁ le; omega)
termination_by ts.length
decreasing_by simp at h₁ le; omega

theorem declarations_of_nil (file : Path) {ts : List Token}
    (h : skipKinds [.mark .semicolon] ts = []) :
    declarations file ts = .read [] [] (Nat.zero_le _) := by
  rw [declarations]
  split
  · rfl
  · next heq => cases h.symm.trans heq

theorem declarations_of_cons (file : Path) {ts r : List Token} {t : Token}
    (h : skipKinds [.mark .semicolon] ts = t :: r) (le : (t :: r).length ≤ ts.length) :
    declarations file ts = (declaration file (t :: r)).andThen fun d r₁ h₁ =>
      (declarations file r₁).andThen fun ds r₂ h₂ =>
        .read (d :: ds) r₂
          (Nat.le_trans h₂ (Nat.le_trans h₁ (Nat.le_trans (Nat.sub_le _ _) le))) := by
  rw [declarations]
  split
  · next heq => cases h.symm.trans heq
  · next heq =>
    cases h.symm.trans heq
    rfl

/-- The tokens of a text without the mark for its end, and where that stands. -/
def tokenList (text : String) : Except Fault (List Token × Position) :=
  (tokens text).map fun ts => (ts.dropLast, (ts.getLast?.map Token.position).getD Position.start)

def schema (file : Path) (text : String) : Except Fault Schema :=
  match tokenList text with
  | .error e => .error e
  | .ok (ts, finish) =>
    match declarations file ts with
    | .read ds _ _ => .ok ⟨ds⟩
    | .fault cause rest => .error ⟨cause, headPosition finish rest⟩

end SchemaGrammar.Source
