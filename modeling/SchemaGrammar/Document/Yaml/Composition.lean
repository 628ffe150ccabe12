import SchemaGrammar.Document.Yaml.Node
import SchemaGrammar.Document.Yaml.Token

/-!
# Nodes of tokens

The tokens of a text are one document: directives, a mark for its start, a node, and a mark for its
end, of which only the node is always there. An anchor names a node, and an alias stands for the
node that has been named.
-/
namespace SchemaGrammar.Document.Yaml

/-- What handles in front of tags stand for. -/
abbrev Handles := List (String × String)

abbrev Anchors := List (String × Node)

abbrev Parsed (α : Type) (bound : Nat) := Except Fault (Read Token α bound)

def faultAt : List Token → Fault
  | .fault f :: _ => f
  | _ => .malformed

def fail {α : Type} (ts : List Token) : Except Fault α := .error (faultAt ts)

structure Properties where
  anchor : Option String := none
  tag : Option (Option String × String) := none
  deriving DecidableEq, Repr

def properties : (ts : List Token) → Read Token Properties ts.length
  | .anchor a :: .tag h t :: r => ⟨⟨some a, some (h, t)⟩, r, by simp; omega⟩
  | .tag h t :: .anchor a :: r => ⟨⟨some a, some (h, t)⟩, r, by simp; omega⟩
  | .anchor a :: r => ⟨⟨some a, none⟩, r, by simp⟩
  | .tag h t :: r => ⟨⟨none, some (h, t)⟩, r, by simp⟩
  | ts => ⟨{}, ts, Nat.le_refl _⟩

def Properties.fullTag? (hs : Handles) (p : Properties) : Option (Option String) :=
  match p.tag with
  | none => some none
  | some (none, name) => some (some name)
  | some (some handle, name) => (hs.find? (·.1 = handle)).map fun (_, stem) => some (stem ++ name)

/-- The kind that a tag gives a node; without a tag, or with the tag that leaves it open, the kind
is the given one. -/
def kindOf (tag : Option String) (otherwise : Kind) : Kind :=
  match tag with
  | none => otherwise
  | some "!" => otherwise
  | some tag => .ofTag tag

/-- The node of a scalar. A scalar in quotes is a string, unless its tag leaves that open. -/
def scalarNode (tag : Option String) (text : String) (isPlain : Bool) : Node :=
  .scalar (kindOf tag (if isPlain || tag = some "!" then .ofPlain text else .string)) text

def emptyNode : Node := scalarNode none "" true

def addAnchor (name : Option String) (n : Node) (as : Anchors) : Anchors :=
  match name with
  | some name => (name, n) :: as
  | none => as

def isEmptyEntry : List Token → Bool
  | .entry :: _ => true
  | .blockEnd :: _ => true
  | _ => false

def isEmptyPart : List Token → Bool
  | .key :: _ => true
  | .value :: _ => true
  | .blockEnd :: _ => true
  | _ => false

def isEmptyFlow (close : Token) (ts : List Token) : Bool :=
  ts.head?.any fun t => t = .comma || t = close

mutual

/-- A node. Block collections have to be allowed, and block sequences without a mark of their own,
whose items are not indented, too. -/
def node (hs : Handles) (block indentless : Bool) (as : Anchors) (ts : List Token) :
    Parsed (Node × Anchors) ts.length :=
  match ts with
  | .alias name :: r =>
    match as.find? (·.1 = name) with
    | some (_, n) => .ok ⟨(n, as), r, by simp⟩
    | none => .error .malformed
  | ts =>
    match properties ts with
    | ⟨p, rest, h⟩ =>
      match p.fullTag? hs with
      | none => .error .malformed
      | some tag =>
        if p.anchor.any fun name => as.any (·.1 = name) then .error .malformed
        else
          let sequence {m : Nat} (h : m ≤ ts.length) (s : Read Token (List Node × Anchors) m) :
              Read Token (Node × Anchors) ts.length :=
            let n := Node.sequence (kindOf tag .sequence) s.value.1
            ⟨(n, addAnchor p.anchor n s.value.2), s.rest, Nat.le_trans s.le h⟩
          let mapping {m : Nat} (h : m ≤ ts.length)
              (s : Read Token (List (Node × Node) × Anchors) m) :
              Read Token (Node × Anchors) ts.length :=
            let n := Node.ofFields (kindOf tag .mapping) s.value.1
            ⟨(n, addAnchor p.anchor n s.value.2), s.rest, Nat.le_trans s.le h⟩
          let inSequence := addAnchor p.anchor (.sequence .sequence []) as
          let inMapping := addAnchor p.anchor (.mapping .mapping []) as
          match rest, block, indentless with
          | .scalar text isPlain :: r, _, _ =>
            let n := scalarNode tag text isPlain
            .ok ⟨(n, addAnchor p.anchor n as), r, by simp at h; omega⟩
          | .openBracket :: r, _, _ =>
            (flowItems hs inSequence r).map (sequence (by simp at h; omega))
          | .openBrace :: r, _, _ =>
            (flowFields hs inMapping r).map (mapping (by simp at h; omega))
          | .sequenceStart :: r, true, _ =>
            (blockItems hs inSequence r).map (sequence (by simp at h; omega))
          | .mappingStart :: r, true, _ =>
            (blockFields hs inMapping r).map (mapping (by simp at h; omega))
          | .entry :: r, _, true => (indentlessItems hs inSequence (.entry :: r)).map (sequence h)
          | r, _, _ =>
            if p = {} then fail r
            else
              let n := scalarNode tag "" true
              .ok ⟨(n, addAnchor p.anchor n as), r, h⟩
termination_by 4 * ts.length + 1
decreasing_by
  all_goals
    simp only [List.length_cons] at h ⊢
    omega

def blockItems (hs : Handles) (as : Anchors) (ts : List Token) :
    Parsed (List Node × Anchors) ts.length :=
  match ts with
  | .blockEnd :: r => .ok ⟨([], as), r, by simp⟩
  | .entry :: r =>
    let item : Parsed (Node × Anchors) r.length :=
      if isEmptyEntry r then .ok ⟨(emptyNode, as), r, Nat.le_refl _⟩ else node hs true false as r
    item.bind fun ⟨(n, as), r', h⟩ =>
      (blockItems hs as r').map fun s =>
        ⟨(n :: s.value.1, s.value.2), s.rest, by have := s.le; simp; omega⟩
  | ts => fail ts
termination_by 4 * ts.length
decreasing_by
  all_goals simp only [List.length_cons] at *
  all_goals omega

/-- The items of a block sequence without a mark of its own. -/
def indentlessItems (hs : Handles) (as : Anchors) (ts : List Token) :
    Parsed (List Node × Anchors) ts.length :=
  match ts with
  | .entry :: r =>
    let item : Parsed (Node × Anchors) r.length :=
      if isEmptyEntry r || isEmptyPart r then .ok ⟨(emptyNode, as), r, Nat.le_refl _⟩
      else node hs true false as r
    item.bind fun ⟨(n, as), r', h⟩ =>
      (indentlessItems hs as r').map fun s =>
        ⟨(n :: s.value.1, s.value.2), s.rest, by have := s.le; simp; omega⟩
  | ts => .ok ⟨([], as), ts, Nat.le_refl _⟩
termination_by 4 * ts.length
decreasing_by
  all_goals simp only [List.length_cons] at *
  all_goals omega

def blockValue (hs : Handles) (as : Anchors) (ts : List Token) :
    Parsed (Node × Anchors) ts.length :=
  match ts with
  | .value :: r =>
    if isEmptyPart r then .ok ⟨(emptyNode, as), r, by simp⟩
    else (node hs true true as r).map (·.weaken (by simp))
  | ts => .ok ⟨(emptyNode, as), ts, Nat.le_refl _⟩
termination_by 4 * ts.length
decreasing_by
  simp only [List.length_cons] at *
  omega

def blockFields (hs : Handles) (as : Anchors) (ts : List Token) :
    Parsed (List (Node × Node) × Anchors) ts.length :=
  match ts with
  | .blockEnd :: r => .ok ⟨([], as), r, by simp⟩
  | .key :: r =>
    let key : Parsed (Node × Anchors) r.length :=
      if isEmptyPart r then .ok ⟨(emptyNode, as), r, Nat.le_refl _⟩ else node hs true true as r
    key.bind fun ⟨(k, as), r', h⟩ =>
      (blockValue hs as r').bind fun ⟨(v, as), r'', h'⟩ =>
        (blockFields hs as r'').map fun s =>
          ⟨((k, v) :: s.value.1, s.value.2), s.rest, by have := s.le; simp; omega⟩
  | ts => fail ts
termination_by 4 * ts.length
decreasing_by
  all_goals simp only [List.length_cons] at *
  all_goals omega

def flowPair (hs : Handles) (close : Token) (as : Anchors) (ts : List Token) :
    Parsed ((Node × Node) × Anchors) ts.length :=
  let key : Parsed (Node × Anchors) ts.length :=
    if isEmptyFlow close ts || ts.head? = some .value then
      .ok ⟨(emptyNode, as), ts, Nat.le_refl _⟩
    else node hs false false as ts
  key.bind fun ⟨(k, as), r, h⟩ =>
    match r with
    | .value :: r' =>
      if isEmptyFlow close r' then
        .ok ⟨((k, emptyNode), as), r', by simp at h; omega⟩
      else
        (node hs false false as r').map fun s =>
          ⟨((k, s.value.1), s.value.2), s.rest, by have := s.le; simp at h; omega⟩
    | r => .ok ⟨((k, emptyNode), as), r, h⟩
termination_by 4 * ts.length + 2
decreasing_by
  · omega
  · simp only [List.length_cons] at *
    omega

def flowItems (hs : Handles) (as : Anchors) (ts : List Token) :
    Parsed (List Node × Anchors) ts.length :=
  match ts with
  | .closeBracket :: r => .ok ⟨([], as), r, by simp⟩
  | ts =>
    let item : Parsed (Node × Anchors) ts.length :=
      match ts with
      | .key :: r =>
        (flowPair hs .closeBracket as r).map fun s =>
          ⟨(.ofFields .mapping [s.value.1], s.value.2), s.rest, by have := s.le; simp; omega⟩
      | ts => node hs false false as ts
    item.bind fun ⟨(n, as), r, h⟩ =>
      match r with
      | .closeBracket :: r' => .ok ⟨([n], as), r', by simp at h; omega⟩
      | .comma :: r' =>
        (flowItems hs as r').map fun s =>
          ⟨(n :: s.value.1, s.value.2), s.rest, by have := s.le; simp at h; omega⟩
      | r => fail r
termination_by 4 * ts.length + 3
decreasing_by
  · simp only [List.length_cons]
    omega
  · omega
  · simp only [List.length_cons] at h
    omega

def flowFields (hs : Handles) (as : Anchors) (ts : List Token) :
    Parsed (List (Node × Node) × Anchors) ts.length :=
  match ts with
  | .closeBrace :: r => .ok ⟨([], as), r, by simp⟩
  | ts =>
    let field : Parsed ((Node × Node) × Anchors) ts.length :=
      match ts with
      | .key :: r => (flowPair hs .closeBrace as r).map (·.weaken (by simp))
      | ts =>
        (node hs false false as ts).map fun s =>
          ⟨((s.value.1, emptyNode), s.value.2), s.rest, s.le⟩
    field.bind fun ⟨(f, as), r, h⟩ =>
      match r with
      | .closeBrace :: r' => .ok ⟨([f], as), r', by simp at h; omega⟩
      | .comma :: r' =>
        (flowFields hs as r').map fun s =>
          ⟨(f :: s.value.1, s.value.2), s.rest, by have := s.le; simp at h; omega⟩
      | r => fail r
termination_by 4 * ts.length + 3
decreasing_by
  · simp only [List.length_cons]
    omega
  · omega
  · simp only [List.length_cons] at h
    omega

end

/-! ## Documents -/

def ownHandles : Handles := [("!", "!"), ("!!", ownStem)]

/-- Reads the directives in front of a document: the handles that they define, and the rest. There
is at most one version, whose first number is one, and no handle is defined twice. -/
def directives (versioned : Bool) (hs : Handles) : List Token → Except Fault (Handles × List Token)
  | .directive .other :: r => directives versioned hs r
  | .directive (.version major _) :: r =>
    if versioned || major ≠ 1 then .error .malformed else directives true hs r
  | .directive (.handle name stem) :: r =>
    if hs.any (·.1 = name) then .error .malformed
    else directives versioned ((name, stem) :: hs) r
  | ts => .ok (hs, ts)

def isEmptyDocument : List Token → Bool
  | [] => true
  | .directive _ :: _ => true
  | .documentStart :: _ => true
  | .documentEnd :: _ => true
  | _ => false

def rootNode (hs : Handles) (ts : List Token) : Except Fault (Node × List Token) :=
  (node hs true false [] ts).map fun s => (s.value.1, s.rest)

def markedDocument (ts : List Token) : Except Fault (Node × List Token) := do
  let (hs, r) ← directives false [] ts
  match r with
  | .documentStart :: r =>
    if isEmptyDocument r then return (emptyNode, r) else rootNode (hs ++ ownHandles) r
  | r => fail r

def document (ts : List Token) : Except Fault (Option Node) :=
  match ts with
  | [] => .ok none
  | ts => do
    let (n, r) ←
      match ts with
      | .directive _ :: _ => markedDocument ts
      | .documentStart :: _ => markedDocument ts
      | ts => rootNode ownHandles ts
    match r.dropWhile (· = .documentEnd) with
    | [] => return some n
    | r => fail r

end SchemaGrammar.Document.Yaml
