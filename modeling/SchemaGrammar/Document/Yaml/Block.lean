import SchemaGrammar.Document.Yaml.Placed

/-!
# Block scalars

A block scalar is the text of the lines below its header that are indented far enough. Its header
may say how far that is, and what becomes of the line ends after the last line. A folded scalar
joins neighbouring lines that do not begin with spaces.
-/
namespace SchemaGrammar.Document.Yaml

/-- What becomes of the line ends at the end of a block scalar. -/
inductive Chomping where
  /-- One of them stays. -/
  | clip
  | strip
  | keep
  deriving DecidableEq, Repr

structure BlockHeader where
  chomping : Chomping
  /-- How much further the text is indented than what is around it, if the header says so. -/
  increment : Option Nat
  deriving DecidableEq, Repr

def chomping? : Char → Option Chomping
  | '+' => some .keep
  | '-' => some .strip
  | _ => none

def increment? (c : Char) : Option Nat :=
  if '1' ≤ c && c ≤ '9' then some (c.toNat - 48) else none

def blockHeader (cs : List Char) : BlockHeader × Nat :=
  let second := cs.tail.head?
  match cs.head?.bind chomping?, cs.head?.bind increment? with
  | some c, _ =>
    match second.bind increment? with
    | some n => (⟨c, some n⟩, 2)
    | none => (⟨c, none⟩, 1)
  | none, some n =>
    match second.bind chomping? with
    | some c => (⟨c, some n⟩, 2)
    | none => (⟨.clip, some n⟩, 1)
  | none, none => (⟨.clip, none⟩, 0)

def afterHeader (ps : List Placed) : Option (Read Placed Unit ps.length) :=
  let spaced := ps.dropWhile (·.char = ' ')
  let finished := if begins '#' spaced then spaced.dropWhile (!isBreak ·.char) else spaced
  have h : finished.length ≤ ps.length := by
    have h₁ := (List.dropWhile_sublist (l := ps) (·.char = ' ')).length_le
    have h₂ := (List.dropWhile_sublist (l := spaced) (!isBreak ·.char)).length_le
    simp only [finished]
    split
    · exact Nat.le_trans h₂ h₁
    · exact h₁
  if finished.head?.all (isBreak ·.char) then
    some ⟨(), finished.tail, by rw [List.length_tail]; omega⟩
  else none

/-- The empty lines at the front, and the greatest column after spaces in them and before the text.
-/
def blockIndentation : (ps : List Placed) → Read Placed (List Char × Nat) ps.length
  | [] => ⟨([], 0), [], by simp⟩
  | p :: r =>
    let next := blockIndentation r
    if isBreak p.char then ⟨(breakChar p.char :: next.value.1, next.value.2), next.rest,
      Nat.le_succ_of_le next.le⟩
    else if p.char = ' ' then ⟨(next.value.1, max (p.column + 1) next.value.2), next.rest,
      Nat.le_succ_of_le next.le⟩
    else ⟨([], 0), p :: r, Nat.le_refl _⟩

def blockBreaks (indent : Nat) : (ps : List Placed) → Read Placed (List Char) ps.length
  | [] => ⟨[], [], by simp⟩
  | p :: r =>
    if p.char = ' ' && p.column < indent then (blockBreaks indent r).weaken (by simp)
    else if isBreak p.char then
      ((blockBreaks indent r).map (breakChar p.char :: ·)).weaken (by simp)
    else ⟨[], p :: r, Nat.le_refl _⟩

/-- The text of a block scalar without what comes after its last line, the end of that line, and the
empty lines after it. -/
structure BlockText where
  text : List Char
  lineEnd : List Char
  breaks : List Char

def atIndent (indent : Nat) (ps : List Placed) : Bool := ps.head?.any (·.column = indent)

def beginsWithSpace (ps : List Placed) : Bool := ps.head?.any (isSpaceOrTab ·.char)

/-- What stands between two lines of a scalar, besides the empty lines. -/
def lineJoint (folded : Bool) (line next : List Placed) (lineEnd breaks : List Char) :
    List Char :=
  if folded && lineEnd = ['\n'] && !beginsWithSpace line && !beginsWithSpace next then
    if breaks = [] then [' '] else []
  else lineEnd

def blockLines (folded : Bool) (indent : Nat) (ps : List Placed) :
    Read Placed BlockText ps.length :=
  let line := ps.takeWhile (!isBreak ·.char)
  match h : ps.dropWhile (!isBreak ·.char) with
  | [] => ⟨⟨line.map Placed.char, [], []⟩, [], by simp⟩
  | b :: r =>
    have hr : r.length < ps.length := by
      have := (List.dropWhile_sublist (l := ps) (!isBreak ·.char)).length_le
      rw [h] at this
      exact this
    let lineEnd := [breakChar b.char]
    match blockBreaks indent r with
    | ⟨breaks, r', h'⟩ =>
      if atIndent indent r' then
        let next := blockLines folded indent r'
        let joint := lineJoint folded ps r' lineEnd breaks
        ⟨{ next.value with text := line.map Placed.char ++ joint ++ breaks ++ next.value.text },
          next.rest, by have := next.le; omega⟩
      else ⟨⟨line.map Placed.char, lineEnd, breaks⟩, r', by omega⟩
termination_by ps.length

def blockScalar (folded : Bool) (least : Nat) (ps : List Placed) :
    Option (Read Placed (List Char) ps.length) :=
  let (header, used) := blockHeader ((ps.take 2).map Placed.char)
  let dropped := ps.drop used
  let ended : Option (Read Placed Unit dropped.length) :=
    if dropped.head?.all fun p => p.char = ' ' || isBreak p.char then afterHeader dropped else none
  ended.map fun ⟨_, r, h⟩ =>
    have h : r.length ≤ ps.length := by simp [dropped] at h; omega
    let (indent, start) : Nat × Read Placed (List Char) r.length :=
      match header.increment with
      | some n => (least + n - 1, blockBreaks (least + n - 1) r)
      | none =>
        let s := blockIndentation r
        (max least s.value.2, s.map Prod.fst)
    let body : Read Placed BlockText start.rest.length :=
      if atIndent indent start.rest then
        (blockLines folded indent start.rest).map fun t => { t with text := start.value ++ t.text }
      else ⟨⟨[], [], start.value⟩, start.rest, Nat.le_refl _⟩
    let t := body.value
    let text :=
      match header.chomping with
      | .strip => t.text
      | .clip => t.text ++ t.lineEnd
      | .keep => t.text ++ t.lineEnd ++ t.breaks
    ⟨text, body.rest, by have := body.le; have := start.le; omega⟩

end SchemaGrammar.Document.Yaml
