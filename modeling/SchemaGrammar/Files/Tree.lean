import SchemaGrammar.Files.Program

/-!
# Trees of files

A tree of files holds files and directories at places, which are lists of names from the top. A path
leads to a place step by step: each step starts from a directory, and `..` steps back.
-/
namespace SchemaGrammar.Files

inductive Node where
  | file (bytes : ByteArray)
  | directory

structure Tree where
  files : List (List String × ByteArray)
  /-- Directories that hold nothing; those above a file need not be listed. -/
  directories : List (List String)
  /-- Where relative paths start. -/
  workingDirectory : List String

namespace Tree

def file? (t : Tree) (place : List String) : Option ByteArray :=
  (t.files.find? (·.1 = place)).map (·.2)

def isDirectory (t : Tree) (place : List String) : Bool :=
  t.directories.any (place.isPrefixOf ·) || t.files.any fun f => place.isPrefixOf f.1

def node? (t : Tree) (place : List String) : Option Node :=
  match t.file? place with
  | some bytes => some (.file bytes)
  | none => if place = [] || t.isDirectory place then some .directory else none

def step (t : Tree) (place : List String) (name : String) : Except Fault (List String) :=
  match t.node? place with
  | none => .error .noSuchFile
  | some (.file _) => .error .notADirectory
  | some .directory => .ok (if name = ".." then place.dropLast else place ++ [name])

/-- The place that a path leads to; there need not be anything. -/
def locate (t : Tree) (p : Path) : Except Fault (List String) :=
  p.names.foldlM t.step (if p.root = .relative then t.workingDirectory else [])

def read (t : Tree) (p : Path) : Except Fault ByteArray := do
  match t.node? (← t.locate p) with
  | none => .error .noSuchFile
  | some (.file bytes) => .ok bytes
  | some .directory => .error .isADirectory

def makeDirectory (t : Tree) (p : Path) : Except Fault Tree := do
  let place ← t.locate p
  match t.node? place with
  | none => .ok { t with directories := place :: t.directories }
  | some _ => .error .fileExists

def hasDirectory (t : Tree) (p : Path) : Bool :=
  match t.locate p with
  | .error _ => false
  | .ok place =>
    match t.node? place with
    | some .directory => true
    | _ => false

/-- The tree with a directory at a path, as long as nothing else is in the way. -/
def ensureDirectory (t : Tree) (p : Path) : Except Fault Tree :=
  match t.makeDirectory p with
  | .ok t => .ok t
  | .error f => if t.hasDirectory p then .ok t else .error f

/-- The tree with a directory at a path, and with those on the way to it. -/
def ensureDirectories (t : Tree) (p : Path) : Except Fault Tree :=
  match t.ensureDirectory p with
  | .error .noSuchFile =>
    if p.names = [] then .error .noSuchFile
    else (t.ensureDirectories p.parent).bind (·.ensureDirectory p)
  | result => result
termination_by p.names.length
decreasing_by
  have : 0 < p.names.length := List.length_pos_iff.mpr ‹_›
  simp [Path.parent]
  omega

def write (t : Tree) (p : Path) (bytes : ByteArray) : Except Fault Tree := do
  let t ← t.ensureDirectories p.parent
  let place ← t.locate p
  match t.node? place with
  | some .directory => .error .isADirectory
  | _ => .ok { t with files := (place, bytes) :: t.files.filter (·.1 ≠ place) }

/-- The tree with these files in a working directory; a file that has no place is left out. -/
def ofFiles (workingDirectory : List String) (files : List (Path × ByteArray)) : Tree :=
  files.foldl (fun t (p, bytes) => (t.write p bytes).toOption.getD t)
    ⟨[], [workingDirectory], workingDirectory⟩

/-- The files that are not in an earlier tree with the same bytes. -/
def changesSince (t before : Tree) : List (List String × ByteArray) :=
  t.files.filter fun (place, bytes) => (before.file? place).map ByteArray.data ≠ some bytes.data

end Tree

namespace Program

variable {α : Type}

def run : Program α → Tree → α × Tree
  | pure a, t => (a, t)
  | read path next, t => (next (t.read path)).run t
  | write path text next, t =>
    match t.write path text.toUTF8 with
    | .error f => (next (.error f)).run t
    | .ok t => (next (.ok ())).run t

end Program

end SchemaGrammar.Files
