import SchemaGrammar.Document.Yaml.Placed

/-!
# Plain scalars

A plain scalar has no quotes. It ends before a comment, before a colon that could end a key, where a
line is indented too little, and in flow collections before a mark of theirs. Its lines are folded.
-/
namespace SchemaGrammar.Document.Yaml

def isFlowMark (c : Char) : Bool := c = ',' || c = '[' || c = ']' || c = '\x7b' || c = '\x7d'

def beginsPlain (flow : Bool) (c : Char) (r : List Placed) : Bool :=
  if isSpaceOrBreak c then false
  else if c = '-' then !endsIndicator r
  else if c = '?' || c = ':' then !flow && !endsIndicator r
  else !(isFlowMark c || ['#', '&', '*', '!', '|', '>', '\'', '"', '%', '@', '\x60'].contains c)

def endsWord (flow : Bool) (c : Char) (r : List Placed) : Bool :=
  isSpaceOrBreak c || (flow && (isFlowMark c || c = '?')) ||
    (c = ':' && (endsIndicator r || (flow && r.head?.any (isFlowMark ·.char))))

def plainWord (flow : Bool) : (ps : List Placed) → Read Placed (List Char) ps.length
  | [] => ⟨[], [], length_nil_le⟩
  | p :: r =>
    if endsWord flow p.char r then ⟨[], p :: r, length_cons_le p r⟩
    else ((plainWord flow r).map (p.char :: ·)).weaken (length_le_cons p r)

theorem length_plainWord (flow : Bool) (ps : List Placed) :
    (plainWord flow ps).value.length + (plainWord flow ps).rest.length = ps.length := by
  induction ps with
  | nil => rfl
  | cons p r ih =>
    unfold plainWord
    split
    · simp
    · simp only [Read.map, Read.weaken, List.length_cons]
      omega

/-- What follows a word of a plain scalar, and whether a line end is the last that was read. Outside
flow collections later lines are indented by at least `indent`. -/
def plainTail (flow : Bool) (indent : Nat) (ps : List Placed) :
    Read Placed (List Char × Bool) ps.length :=
  match fold (· = ' ') ps with
  | ⟨f, r, h⟩ =>
    let stop : Read Placed (List Char × Bool) ps.length := ⟨([], f.crossed), r, h⟩
    if f.text = [] || begins '#' r || (f.crossed && beginsAnyMarker r) ||
        (!flow && r.head?.any (·.column < indent)) then stop
    else
      let w := plainWord flow r
      if hw : w.value = [] then stop
      else
        have : w.rest.length < ps.length := by
          have hs : w.value.length + w.rest.length = r.length := length_plainWord flow r
          have hw : 0 < w.value.length := List.length_pos_iff.mpr hw
          omega
        let t := plainTail flow indent w.rest
        ⟨(f.text ++ w.value ++ t.value.1, t.value.2), t.rest, by have := t.le; omega⟩
termination_by ps.length

def plain (flow : Bool) (indent : Nat) (c : Char) (r : List Placed) :
    Read Placed (List Char × Bool) r.length :=
  let w := plainWord flow r
  let t := plainTail flow indent w.rest
  ⟨(c :: w.value ++ t.value.1, t.value.2), t.rest, Nat.le_trans t.le w.le⟩

end SchemaGrammar.Document.Yaml
