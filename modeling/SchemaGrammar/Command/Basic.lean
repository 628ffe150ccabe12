import SchemaGrammar.Command.Words
import SchemaGrammar.Manifest

/-!
# Commands

What can be asked for on the command line, and how it is written there. A line that asks for nothing
that is known, or that leaves out what has to be there, is no command.
-/
namespace SchemaGrammar

inductive Command where
  /-- Writes the grammar of a schema to a file, or shows it. -/
  | compile (schema : Path) (enumerations : List Path) (root : String) (output : Option Path)
    (lists : ListElements)
  /-- Lists the elements of the grammar of a schema. -/
  | check (schema : Path) (enumerations : List Path) (root : String)
  /-- Compiles the project of a manifest. -/
  | build (manifest : Path)
  | version
  | help
  deriving DecidableEq, Repr

namespace Command

def helpForm : OptionForm := ⟨"help", none, false⟩

def commonForms : List OptionForm :=
  [helpForm, ⟨"version", none, false⟩, ⟨"verbose", some 'V', false⟩]

def checkForms : List OptionForm :=
  [helpForm, ⟨"root", some 'r', true⟩, ⟨"enums", some 'e', true⟩]

def compileForms : List OptionForm :=
  checkForms ++ [⟨"output", some 'o', true⟩, ⟨"lazy-lists", none, false⟩]

def buildForms : List OptionForm := [helpForm, ⟨"manifest", some 'm', true⟩]

def enumerationPaths (w : Words) : List Path := (w.values "enums").map Path.ofString

def compile? (w : Words) : Option Command := do
  let [schema] := w.plain | none
  let root ← w.value? "root"
  let lists := if w.has "lazy-lists" then .referenced else .all
  let output := (w.value? "output").map Path.ofString
  return .compile (Path.ofString schema) (enumerationPaths w) root output lists

def check? (w : Words) : Option Command := do
  let [schema] := w.plain | none
  return .check (Path.ofString schema) (enumerationPaths w) (← w.value? "root")

def build? (w : Words) : Option Command :=
  if w.plain = [] then
    some (.build (((w.value? "manifest").map Path.ofString).getD Manifest.defaultPath))
  else none

def version? (w : Words) : Option Command :=
  if w.plain = [] then some .version else none

def ofName? (name : String) (line : List String) : Option Command :=
  let read (forms : List OptionForm) (make : Words → Option Command) : Option Command :=
    (words? forms true line).bind fun w => if w.has "help" then some .help else make w
  match name with
  | "compile" => read compileForms compile?
  | "check" => read checkForms check?
  | "build" => read buildForms build?
  | "version" => read [helpForm] version?
  | _ => none

/-- The command of a line; options for help and for the version come before everything else. -/
def ofLine? (line : List String) : Option Command := do
  let w ← words? commonForms false line
  match w.options.find? (·.name ≠ "verbose") with
  | some option => return if option.name = "version" then .version else .help
  | none =>
    match w.plain with
    | [] => none
    | name :: line => ofName? name line

def usage : String :=
  "Usage: typegrammar [--verbose] COMMAND\n\n" ++
    "  compile SCHEMA --root NAME [--enums FILE]... [--output FILE] [--lazy-lists]\n" ++
    "  check SCHEMA --root NAME [--enums FILE]...\n" ++
    "  build [--manifest FILE]\n" ++
    "  version\n"

end Command

end SchemaGrammar
