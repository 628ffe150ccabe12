import SchemaGrammar.Loading
import SchemaGrammar.Schema.Grammar

/-!
# Manifests

A manifest is a TOML text that names the root record and the schema files of a project, and may say
where the grammar goes and which list elements it has. Its paths start from its own directory. The
sections are checked in the order project, schema, output, compiler, and the first fault is the
error.
-/
namespace SchemaGrammar

structure Manifest where
  /-- Any value that the manifest gives as the name of the project. -/
  name : Document.Value
  root : String
  schemas : List String
  /-- The files that declare enumerations only. -/
  enumerations : List String
  output : Option String
  lists : ListElements
  /-- The directory that the paths start from. -/
  directory : Path

inductive ManifestError where
  | unreadable (path : Path) (fault : Files.Fault)
  /-- The bytes of the file are not UTF-8. -/
  | undecodable
  /-- The text is no TOML. -/
  | badText (path : Path)
  /-- The text writes a value that there is none of. -/
  | badValue (fault : Document.Fault)
  /-- A section is no table. -/
  | notTable
  | noRoot (path : Path)
  /-- A key leads neither to a string nor to a list of strings. -/
  | notPaths (path : Path) (key : String)
  | noSchemas (path : Path)
  | badOutput (path : Path)
  /-- The value for list elements is none that is known. -/
  | badLists (path : Path) (value : Document.Value)

namespace ManifestError

def message : ManifestError → String
  | unreadable path _ => s!"Cannot read manifest {path}: "
  | undecodable => ""
  | badText path => s!"Invalid TOML in {path}: "
  | badValue _ => ""
  | notTable => ""
  | noRoot path => s!"{path}: [project] root must name the root record"
  | notPaths path key => s!"{path}: '{key}' must be a string or a list of strings"
  | noSchemas path => s!"{path}: [schema] paths must list at least one schema file"
  | badOutput path => s!"{path}: 'output.path' must be a string"
  | badLists path value =>
    s!"{path}: 'compiler.list_elements' must be one of " ++
      Text.shownList ([ListElements.all, .referenced].map fun l => Text.shown l.name) ++
      ", got " ++ value.shown

def cause : ManifestError → String
  | unreadable path f => f.text path
  | _ => ""

def text (e : ManifestError) : String := e.message ++ e.cause

def ofLists (path : Path) (value : Document.Value) : ManifestError :=
  if value.canShow then badLists path value else badValue .noSuchValue

def ofFault (path : Path) : Document.Fault → ManifestError
  | .malformed => badText path
  | f => badValue f

end ManifestError

namespace Manifest

def schemaPaths (m : Manifest) : List Path :=
  m.schemas.map fun p => m.directory.join (Path.ofString p)

def enumerationPaths (m : Manifest) : List Path :=
  m.enumerations.map fun p => m.directory.join (Path.ofString p)

def outputPath (m : Manifest) : Option Path :=
  m.output.map fun p => m.directory.join (Path.ofString p)

def value? (fields : List (String × Document.Value)) (key : String) : Option Document.Value :=
  (Document.field? key fields).map (·.1)

/-- The fields of a section; one that is left out is empty. -/
def sectionFields (document : List (String × Document.Value)) (name : String) :
    Except ManifestError (List (String × Document.Value)) :=
  match value? document name with
  | none => .ok []
  | some (.object fields) => .ok fields
  | some _ => .error .notTable

def strings? : List Document.Value → Option (List String)
  | [] => some []
  | .string s :: vs => (strings? vs).map (s :: ·)
  | _ :: _ => none

/-- The paths that a key lists; a string is a list of one, and a key left out lists none. -/
def paths (path : Path) (fields : List (String × Document.Value)) (key inSection : String) :
    Except ManifestError (List String) :=
  let found : Option (List String) :=
    match value? fields inSection with
    | none => some []
    | some (.string s) => some [s]
    | some (.array vs) => strings? vs
    | some _ => none
  match found with
  | some ps => .ok ps
  | none => .error (.notPaths path (key ++ "." ++ inSection))

def ofDocument (path : Path) (document : List (String × Document.Value)) :
    Except ManifestError Manifest := do
  let project ← sectionFields document "project"
  let some (.string root) := value? project "root" | throw (.noRoot path)
  if root = "" then
    throw (.noRoot path)
  let schema ← sectionFields document "schema"
  let schemas ← paths path schema "schema" "paths"
  let enumerations ← paths path schema "schema" "enums"
  if schemas = [] then
    throw (.noSchemas path)
  let output ←
    match value? (← sectionFields document "output") "path" with
    | none => pure none
    | some (.string s) => pure (some s)
    | some _ => throw (.badOutput path)
  let lists ←
    match value? (← sectionFields document "compiler") "list_elements" with
    | none => pure .all
    | some v =>
      match v with
      | .string s =>
        match ListElements.ofName? s with
        | some lists => pure lists
        | none => throw (.ofLists path v)
      | _ => throw (.ofLists path v)
  let name := (value? project "name").getD (.string "unnamed")
  return { name, root, schemas, enumerations, output, lists, directory := path.parent }

def ofTextWith (readers : Document.Readers) (path : Path) (text : String) :
    Except ManifestError Manifest :=
  match readers.toml text with
  | .ok (.object document) => ofDocument path document
  | .ok _ => .error (.badText path)
  | .error f => .error (.ofFault path f)

def ofText (path : Path) (text : String) : Except ManifestError Manifest :=
  ofTextWith .standard path text

def defaultPath : Path := Path.ofString "typegrammar.toml"

end Manifest

def loadManifestWith (readers : Document.Readers) (path : Path) :
    ExceptT ManifestError Files.Program Manifest := do
  let bytes ← (Files.readBytes path).adapt (.unreadable path)
  match Text.ofBytes? bytes with
  | none => throw .undecodable
  | some text => Manifest.ofTextWith readers path text

def loadManifest (path : Path) : ExceptT ManifestError Files.Program Manifest :=
  loadManifestWith .standard path

end SchemaGrammar
