import SchemaGrammar.Document.Yaml.Block
import SchemaGrammar.Document.Yaml.Plain
import SchemaGrammar.Document.Yaml.Quoted
import SchemaGrammar.Document.Yaml.Token

/-!
# The layout of YAML texts

The layout of a text says which block collections its columns open and close, and which of its
tokens are keys. Only the colon after a token tells that the token is a key; it has to follow on the
same line, within 1024 characters.
-/
namespace SchemaGrammar.Document.Yaml

/-- A token that may turn out to be a key. -/
structure Candidate where
  /-- How many tokens come before it. -/
  number : Nat
  index : Nat
  line : Nat
  column : Nat
  /-- Whether nothing but a key can stand there. -/
  isRequired : Bool
  deriving DecidableEq, Repr

/-- How far from its beginning a key may reach. -/
def longestKey : Nat := 1024

structure Layout where
  /-- The columns of the open block collections, innermost first. -/
  columns : List Nat
  /-- Whether a key may begin. -/
  allowsKey : Bool
  candidate : Option Candidate
  /-- For each open flow collection, innermost first, the candidate around it. -/
  outer : List (Option Candidate)
  /-- The tokens, the last first. -/
  tokens : List Token
  /-- How many tokens there are. -/
  count : Nat

namespace Layout

def start : Layout := ⟨[], true, none, [], [], 0⟩

def inFlow (l : Layout) : Bool := l.outer ≠ []

def emit (t : Token) (l : Layout) : Layout :=
  { l with tokens := t :: l.tokens, count := l.count + 1 }

def insert (number : Nat) (t : Token) (l : Layout) : Layout :=
  let later := l.count - number
  { l with
    tokens := l.tokens.take later ++ t :: l.tokens.drop later
    count := l.count + 1 }

def isDeeper (l : Layout) (column : Nat) : Bool := l.columns.head?.all (· < column)

def closeWhile (p : Nat → Bool) (l : Layout) : Layout :=
  let closed := (l.columns.takeWhile p).length
  { l with
    columns := l.columns.drop closed
    tokens := List.replicate closed .blockEnd ++ l.tokens
    count := l.count + closed }

/-- Closes the block collections to the right of a column; flow collections keep them open. -/
def unwind (column : Nat) (l : Layout) : Layout :=
  if l.inFlow then l else l.closeWhile (column < ·)

def unwindAll (l : Layout) : Layout := if l.inFlow then l else l.closeWhile fun _ => true

/-- Gives up a candidate, which is a fault if it has to be a key. -/
def giveUp (c : Option Candidate) : Except Fault (Option Candidate) :=
  if c.any (·.isRequired) then .error .malformed else .ok none

def dropStale (p : Placed) (l : Layout) : Except Fault Layout := do
  let keep (c : Option Candidate) : Except Fault (Option Candidate) :=
    if c.any fun c => c.line ≠ p.line || c.index + longestKey < p.index then giveUp c else .ok c
  return { l with candidate := ← keep l.candidate, outer := ← l.outer.mapM keep }

def dropCandidate (l : Layout) : Except Fault Layout := do
  return { l with candidate := ← giveUp l.candidate }

/-- Makes the token that follows a candidate, if a key may begin there. -/
def noteCandidate (p : Placed) (l : Layout) : Except Fault Layout :=
  if l.allowsKey then do
    let l ← l.dropCandidate
    let isRequired := !l.inFlow && l.columns.head? = some p.column
    return { l with candidate := some ⟨l.count, p.index, p.line, p.column, isRequired⟩ }
  else .ok l

def openFlow (t : Token) (p : Placed) (l : Layout) : Except Fault Layout := do
  let l ← l.noteCandidate p
  return { l with outer := l.candidate :: l.outer, candidate := none, allowsKey := true }.emit t

def closeFlow (t : Token) (l : Layout) : Except Fault Layout := do
  let l ← l.dropCandidate
  match l.outer with
  | [] => .error .malformed
  | candidate :: outer => return { l with candidate, outer, allowsKey := false }.emit t

def atMargin (t : Token) (l : Layout) : Except Fault Layout := do
  return { (← l.unwindAll.dropCandidate) with allowsKey := false }.emit t

def comma (l : Layout) : Except Fault Layout := do
  return { (← l.dropCandidate) with allowsKey := true }.emit .comma

/-- Opens a block collection at a place, unless one is open in its column. -/
def openBlock (t : Token) (p : Placed) (l : Layout) : Layout :=
  if l.isDeeper p.column then { l with columns := p.column :: l.columns }.emit t else l

def openBlockFor (t : Token) (p : Placed) (l : Layout) : Except Fault Layout :=
  if l.inFlow then .ok l
  else if l.allowsKey then .ok (l.openBlock t p)
  else .error .malformed

def entry (p : Placed) (l : Layout) : Except Fault Layout := do
  let l ← l.openBlockFor .sequenceStart p
  return { (← l.dropCandidate) with allowsKey := true }.emit .entry

def key (p : Placed) (l : Layout) : Except Fault Layout := do
  let l ← l.openBlockFor .mappingStart p
  return { (← l.dropCandidate) with allowsKey := !l.inFlow }.emit .key

def value (p : Placed) (l : Layout) : Except Fault Layout :=
  match l.candidate with
  | some c =>
    let l := { l with candidate := none, allowsKey := false }.insert c.number .key
    let l :=
      if !l.inFlow && l.isDeeper c.column then
        { l with columns := c.column :: l.columns }.insert c.number .mappingStart
      else l
    .ok (l.emit .value)
  | none => do
    let l ← l.openBlockFor .mappingStart p
    return { l with allowsKey := !l.inFlow }.emit .value

def word (t : Token) (allowsKey : Bool) (l : Layout) : Layout :=
  { l with allowsKey }.emit t

def indent (l : Layout) : Nat := (l.columns.head?.map (· + 1)).getD 0

def finish (l : Layout) : List Token :=
  match l.unwindAll.dropCandidate with
  | .ok l => l.tokens.reverse
  | .error f => (.fault f :: l.tokens).reverse

/-- The tokens when the text is at fault. A token that might still be a key, and what comes after
it, is not among them. -/
def broken (f : Fault) (l : Layout) : List Token :=
  let numbers := (l.candidate :: l.outer).filterMap (·.map Candidate.number)
  l.tokens.reverse.take ((numbers.min?).getD l.count) ++ [.fault f]

end Layout

/-- The layout after the token that begins with a character, and the rest after that token. -/
def step (l : Layout) (p : Placed) (r : List Placed) : Except Fault (Read Placed Layout r.length) :=
  let next (l : Except Fault Layout) : Except Fault (Read Placed Layout r.length) :=
    l.map fun l => ⟨l, r, Nat.le_refl _⟩
  let named (make : String → Token) : Except Fault (Read Placed Layout r.length) := do
    let l ← l.noteCandidate p
    let name ← orMalformed (anchorName? (r.map Placed.char))
    return ⟨l.word (make (String.ofList name)) false, r.drop name.length, by simp⟩
  let quoted (text : List Char) (rest : List Placed) (h : rest.length ≤ r.length) :
      Except Fault (Read Placed Layout r.length) := do
    let l ← l.noteCandidate p
    return ⟨l.word (.scalar (String.ofList text) false) false, rest, h⟩
  let block (folded : Bool) : Except Fault (Read Placed Layout r.length) := do
    let l ← l.dropCandidate
    let s ← orMalformed (blockScalar folded (max l.indent 1) r)
    return ⟨l.word (.scalar (String.ofList s.value) false) true, s.rest, s.le⟩
  if p.char = '%' && p.column = 0 then do
    let (d, rest) ← orMalformed (directive? (r.map Placed.char))
    let l ← l.atMargin d
    return ⟨l, r.drop (r.length - rest.length), by simp⟩
  else if beginsAnyMarker (p :: r) then
    let mark : Token := if p.char = '-' then .documentStart else .documentEnd
    (l.atMargin mark).map fun l => ⟨l, r.drop 2, by simp⟩
  else
    let ends := l.inFlow || endsIndicator r
    match p.char with
    | '[' => next (l.openFlow .openBracket p)
    | '\x7b' => next (l.openFlow .openBrace p)
    | ']' => next (l.closeFlow .closeBracket)
    | '\x7d' => next (l.closeFlow .closeBrace)
    | ',' => next l.comma
    | '*' => named .alias
    | '&' => named .anchor
    | '!' => do
      let l ← l.noteCandidate p
      let (t, used) ← orMalformed (tag? (p.char :: r.map Placed.char))
      return ⟨l.word t false, r.drop (used - 1), by simp⟩
    | '\'' => (singleQuoted r).bind fun s => quoted s.value s.rest s.le
    | '"' => (doubleQuoted r).bind fun s => quoted (Text.hold s.value) s.rest s.le
    | c =>
      if c = '-' && endsIndicator r then next (l.entry p)
      else if c = '?' && ends then next (l.key p)
      else if c = ':' && ends then next (l.value p)
      else if c = '|' && !l.inFlow then block false
      else if c = '>' && !l.inFlow then block true
      else if beginsPlain l.inFlow c r then do
        let l ← l.noteCandidate p
        let s := plain l.inFlow l.indent c r
        return ⟨l.word (.scalar (String.ofList s.value.1) true) s.value.2, s.rest, s.le⟩
      else .error .malformed

def tokensFrom (l : Layout) (ps : List Placed) : List Token :=
  match skipGap ps with
  | ⟨crossed, rest, _⟩ =>
    let l := if crossed && !l.inFlow then { l with allowsKey := true } else l
    match rest with
    | [] => l.finish
    | p :: r =>
      match l.dropStale p with
      | .error f => l.broken f
      | .ok l =>
        match step (l.unwind p.column) p r with
        | .error f => l.broken f
        | .ok ⟨l, r', _⟩ => tokensFrom l r'
termination_by ps.length
decreasing_by
  simp only [List.length_cons] at *
  omega

def tokens (ps : List Placed) : List Token := tokensFrom .start ps

end SchemaGrammar.Document.Yaml
