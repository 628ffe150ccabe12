import SchemaGrammar.Document.Json
import SchemaGrammar.Document.Schemas
import SchemaGrammar.Document.Toml
import SchemaGrammar.Document.Yaml
import SchemaGrammar.Files.Program
import SchemaGrammar.Source.Declarations
import SchemaGrammar.Text.Lines

/-!
# Loading schemas

A schema is loaded from a source text or from a document, and the suffix of a file's name tells
which of them the file holds. Sources of enumerations are checked to declare nothing else. What
value the text of a document writes is left to readers, and loading is the same with any of them.
-/
namespace SchemaGrammar

/-- What value the text of a document writes, in each format. -/
structure Document.Readers where
  json : String → Except Document.Fault Document.Value
  yaml : String → Except Document.Fault Document.Value
  toml : String → Except Document.Fault Document.Value

def Document.Readers.standard : Readers := ⟨Json.read, Yaml.read, Toml.read⟩

inductive LoadError where
  /-- The source has a fault, reported with its line. -/
  | fault (d : Diagnostic)
  | unreadable (path : Path) (fault : Files.Fault)
  /-- The bytes of the file are not UTF-8. -/
  | undecodable
  /-- The text is no JSON or no YAML. -/
  | badText (path : Path)
  /-- The text writes a value that there is none of. -/
  | badValue (fault : Document.Fault)
  /-- The document does not describe a schema. -/
  | badDocument (source : String) (complaints : List Document.Complaint)
  /-- A source of enumerations declares something else; the names of that follow. -/
  | notEnumerations (source : String) (names : List String)
  deriving DecidableEq, Repr

namespace LoadError

/-- The report of an error, up to the text of the system that may follow. -/
def diagnostic : LoadError → Diagnostic
  | fault d => d
  | unreadable path _ => ⟨s!"Cannot read schema file {path}: ", none⟩
  | undecodable => ⟨"", none⟩
  | badText path => ⟨s!"Invalid declaration document {path}: ", none⟩
  | badValue _ => ⟨"", none⟩
  | badDocument source _ => ⟨s!"Invalid declaration document {source}:\n", none⟩
  | notEnumerations source names =>
    ⟨s!"{source}: enumeration sources may only declare enums (found " ++
      ", ".intercalate names ++ ")", none⟩

def cause : LoadError → String
  | unreadable path f => f.text path
  | _ => ""

def text (e : LoadError) : String := e.diagnostic.text ++ e.cause

def ofFault (path : Path) : Document.Fault → LoadError
  | .malformed => badText path
  | f => badValue f

end LoadError

inductive SchemaFormat where
  | source
  | json
  | yaml
  deriving DecidableEq, Repr

/-- The format of a file, by its suffix in any case; what is no document is a source. -/
def SchemaFormat.ofPath (path : Path) : SchemaFormat :=
  match path.suffix.toLower with
  | ".json" => .json
  | ".yaml" => .yaml
  | ".yml" => .yaml
  | _ => .source

namespace Schema

def ofSource (file : Path) (text : String) : Except LoadError Schema :=
  (Source.schema file text).mapError fun f => .fault (f.diagnostic file text)

def ofDocument (source : String) (v : Document.Value) : Except LoadError Schema :=
  (Document.schema v).toExcept.mapError (.badDocument source)

def ofFileTextWith (readers : Document.Readers) (path : Path) (text : String) :
    Except LoadError Schema :=
  let ofValue (v : Except Document.Fault Document.Value) : Except LoadError Schema :=
    (v.mapError (.ofFault path)).bind (ofDocument path.text)
  match SchemaFormat.ofPath path with
  | .source => ofSource path text
  | .json => ofValue (readers.json text)
  | .yaml => ofValue (readers.yaml text)

def ofFileText (path : Path) (text : String) : Except LoadError Schema :=
  ofFileTextWith .standard path text

def otherNames (s : Schema) : List String :=
  (s.declarations.filter (·.enumeration?.isNone)).map fun d =>
    match d.name? with
    | none => "<anonymous>"
    | some name => if name = "" then "<anonymous>" else name

def enumerationsOnly (s : Schema) (source : String) : Except LoadError Schema :=
  if s.declarations.all (·.enumeration?.isSome) then .ok s
  else .error (.notEnumerations source s.otherNames)

end Schema

/-- The file that a source text without one is reported under. -/
def sourceFile : Path := Path.ofString "<schema>"

def loadSchemaWith (readers : Document.Readers) (path : Path) :
    ExceptT LoadError Files.Program Schema := do
  let bytes ← (Files.readBytes path).adapt (.unreadable path)
  match Text.ofBytes? bytes with
  | none => throw .undecodable
  | some text => Schema.ofFileTextWith readers path text

def loadEnumerationsWith (readers : Document.Readers) (path : Path) :
    ExceptT LoadError Files.Program Schema := do
  (← loadSchemaWith readers path).enumerationsOnly path.text

def loadSchema (path : Path) : ExceptT LoadError Files.Program Schema :=
  loadSchemaWith .standard path

def loadEnumerations (path : Path) : ExceptT LoadError Files.Program Schema :=
  loadEnumerationsWith .standard path

/-- Loads the schema of several files, with the files of enumerations in front. -/
def loadSchemas (schemas enumerations : List Path) : ExceptT LoadError Files.Program Schema := do
  let enumerations ← enumerations.mapM loadEnumerations
  let schemas ← schemas.mapM loadSchema
  return (enumerations ++ schemas).foldl (· ++ ·) {}

end SchemaGrammar
