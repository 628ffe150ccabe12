/-!
# Paths

A path is a root and the names below it. Empty names and `.` are dropped when a path is read, `..`
is kept. Two slashes in front are a root of their own; three or more are one.
-/
namespace SchemaGrammar

inductive Path.Root where
  | relative
  | absolute
  | doubleSlash
  deriving DecidableEq, Repr

structure Path where
  root : Path.Root
  names : List String
  deriving DecidableEq, Repr

namespace Path

def pieces : List Char → List Char × List (List Char)
  | [] => ([], [])
  | c :: r =>
    let (first, others) := pieces r
    if c = '/' then ([], first :: others) else (c :: first, others)

def ofString (s : String) : Path where
  root :=
    match s.toList with
    | '/' :: '/' :: '/' :: _ => .absolute
    | '/' :: '/' :: _ => .doubleSlash
    | '/' :: _ => .absolute
    | _ => .relative
  names :=
    let (first, others) := pieces s.toList
    (first :: others).map String.ofList |>.filter fun name => name != "" && name != "."

def Root.text : Root → String
  | .relative => ""
  | .absolute => "/"
  | .doubleSlash => "//"

/-- The normal text of a path; the relative path without names is `.`. -/
def text (p : Path) : String :=
  if p.root = .relative && p.names.isEmpty then "."
  else p.root.text ++ "/".intercalate p.names

instance : ToString Path := ⟨text⟩

/-- The path `q` seen from `p`: an absolute `q` is itself. -/
def join (p q : Path) : Path :=
  if q.root = .relative then { p with names := p.names ++ q.names } else q

/-- The path of the directory that holds `p`; a path without names holds itself. -/
def parent (p : Path) : Path :=
  { p with names := p.names.dropLast }

def name (p : Path) : String :=
  p.names.getLast?.getD ""

/-- The last name from its last dot on; empty if that dot begins or ends the name. -/
def suffix (p : Path) : String :=
  let letters := p.name.toList
  let after := letters.reverse.takeWhile (· ≠ '.')
  if after.isEmpty || letters.length ≤ after.length + 1 then ""
  else String.ofList ('.' :: after.reverse)

/-- The absolute path below `base` without `..`: each one takes back the name before it. -/
def resolve (base p : Path) : Path :=
  let joined := base.join p
  { joined with names := joined.names.foldl step [] }
where
  step (names : List String) (name : String) : List String :=
    if name = ".." then names.dropLast else names ++ [name]

end Path

end SchemaGrammar
