import SchemaGrammar.Document.Yaml.Meaning

/-!
# Nodes of YAML texts

A text is a tree of nodes. The value of a tree is found level by level from the top, and so is its
first fault: a scalar that stands for nothing there is, a collection as a key, or a collection with
a tag of another kind.
-/
namespace SchemaGrammar.Document.Yaml

inductive Node where
  | scalar (kind : Kind) (text : String)
  | sequence (kind : Kind) (items : List Node)
  | mapping (kind : Kind) (fields : List (Node × Node))

namespace Node

/-! ## Merging -/

def isMerge : Node → Bool
  | scalar .merge _ => true
  | _ => false

def fields? : Node → Option (List (Node × Node))
  | mapping _ fields => some fields
  | _ => none

/-- The fields that a merge key takes over from its value: those of a mapping, or of each mapping in
a sequence, of which the first counts most. -/
def merged? : Node → Option (List (Node × Node))
  | mapping _ fields => some fields
  | sequence _ items => (items.mapM fields?).map fun all => all.reverse.flatten
  | scalar .. => none

/-- A mapping, with the fields that its merge keys take over in front of its own; one that merges
anything else than mappings keeps its merge key. -/
def ofFields (kind : Kind) (fields : List (Node × Node)) : Node :=
  let merges := fields.filter (·.1.isMerge)
  match merges.mapM fun (_, v) => merged? v with
  | some taken => mapping kind (taken.flatten ++ fields.filter (!·.1.isMerge))
  | none => mapping kind (merges ++ fields)

/-! ## Faults -/

/-- Lists by level, put behind one another level by level. -/
def appendLevels {α : Type} : List (List α) → List (List α) → List (List α)
  | [], ls => ls
  | ks, [] => ks
  | k :: ks, l :: ls => (k ++ l) :: appendLevels ks ls

def ownFaults : Node → List Fault
  | scalar kind text =>
    match scalarValue kind text with
    | .ok _ => []
    | .error f => [f]
  | sequence kind _ => if kind = .sequence then [] else [.malformed]
  | mapping kind _ => if kind = .mapping then [] else [.malformed]

def keyFaults : Node → List Fault
  | scalar .default _ => []
  | scalar kind text => ownFaults (scalar kind text)
  | _ => [.malformed]

mutual

def partFaults : Node → List (List Fault)
  | scalar .. => []
  | sequence _ items => itemFaults items
  | mapping _ fields => fieldFaults fields

def itemFaults : List Node → List (List Fault)
  | [] => []
  | n :: items => appendLevels (n.ownFaults :: n.partFaults) (itemFaults items)

def fieldFaults : List (Node × Node) → List (List Fault)
  | [] => []
  | (k, v) :: fields =>
    appendLevels ((k.keyFaults ++ v.ownFaults) :: v.partFaults) (fieldFaults fields)

end

/-! ## Values -/

/-- The name of the field that a key stands for; keys that are no strings stand for none. -/
def name? : Node → Option String
  | scalar .default text => some text
  | scalar kind text =>
    match scalarValue kind text with
    | .ok (.string name) => some name
    | _ => none
  | _ => none

mutual

/-- The value of a node without faults. -/
def plainValue : Node → Value
  | scalar kind text =>
    match scalarValue kind text with
    | .ok v => v
    | .error _ => .null
  | sequence _ items => .array (plainItems items)
  | mapping _ fields => Value.ofFields (plainFields fields)

def plainItems : List Node → List Value
  | [] => []
  | n :: items => n.plainValue :: plainItems items

def plainFields : List (Node × Node) → List (String × Value)
  | [] => []
  | (k, v) :: fields =>
    match k.name? with
    | some name => (name, v.plainValue) :: plainFields fields
    | none => plainFields fields

end

def value (n : Node) : Except Fault Value :=
  match (n.ownFaults ++ n.partFaults.flatten).head? with
  | some f => .error f
  | none => .ok n.plainValue

end Node

end SchemaGrammar.Document.Yaml
