import SchemaGrammar.Command.Basic
import SchemaGrammar.Grammar.Listing
import SchemaGrammar.Text.Styled

/-!
# Running commands

A command is a program on files that ends with what it shows, or with the reason why it stopped. It
writes at most one file, and that only after the whole grammar is there. A grammar that holds half
of a surrogate pair has no encoding: it cannot be shown, and the file for it is left empty.
-/
namespace SchemaGrammar.Command

inductive Report where
  | load (e : LoadError)
  | manifest (e : ManifestError)
  | grammar (e : GrammarError)

def Report.message : Report → String
  | load e => e.text
  | manifest e => e.text
  | grammar e => e.diagnostic.text

/-- What is said where errors are said; halves of surrogate pairs are escaped there. -/
def Report.text (report : Report) : String := Text.withoutHalves report.message

inductive Stop where
  /-- An error that is reported. -/
  | error (report : Report)
  /-- A file that was read is not UTF-8. -/
  | undecodable
  /-- A document writes a value that there is none of. -/
  | badValue (fault : Document.Fault)
  /-- A section of the manifest is no table. -/
  | notTable
  /-- The grammar cannot be written to its file. -/
  | unwritable (fault : Files.Fault)
  /-- The grammar holds half of a surrogate pair. -/
  | unencodable
  /-- The styles of a notice are wrong. -/
  | badStyle (fault : Text.StyleFault)

namespace Stop

def ofLoadError (e : LoadError) : Stop :=
  match e with
  | .undecodable => undecodable
  | .badValue f => badValue f
  | e => error (.load e)

def ofManifestError (e : ManifestError) : Stop :=
  match e with
  | .undecodable => undecodable
  | .badValue f => badValue f
  | .notTable => notTable
  | e => error (.manifest e)

def ofGrammarError (e : GrammarError) : Stop := error (.grammar e)

def text : Stop → String
  | error report => s!"Error: {report.text}\n"
  | undecodable => "A file is not UTF-8\n"
  | badValue fault => s!"In a document {fault.text}\n"
  | notTable => "A section of the manifest is not a table\n"
  | unwritable fault => s!"The output cannot be written: {fault.reason}\n"
  | unencodable => "The output holds half of a surrogate pair\n"
  | badStyle fault => s!"In a notice {fault.text}\n"

end Stop

abbrev Running := ExceptT Stop Files.Program String

def versionText : String := "typegrammar 0.1.0\n"

def notice (text : String) : Except Stop String :=
  match Text.unstyled ("[green]" ++ text ++ "[/green]") with
  | .error fault => .error (.badStyle fault)
  | .ok line => .ok (line ++ "\n")

/-- Writes the text of a grammar to a file and tells so, or shows the text if there is no file. -/
def deliver (text : String) (output : Option Path) (done : Path → Except Stop String) :
    Running := do
  match output with
  | none => if Text.holdsHalf text.toList then throw .unencodable else return text
  | some path =>
    if Text.holdsHalf text.toList then
      -- The file is there before its text is encoded.
      (Files.writeText path "").adapt .unwritable
      throw .unencodable
    else
      (Files.writeText path text).adapt .unwritable
      notice (← done path)

def runCompile (schema : Path) (enumerations : List Path) (root : String) (output : Option Path)
    (lists : ListElements) : Running := do
  let s ← (loadSchemas [schema] enumerations).adapt Stop.ofLoadError
  let text ← (s.grammarText root lists).mapError Stop.ofGrammarError
  deliver text output fun path => .ok s!"Wrote grammar for {root} to {path}"

def runCheck (schema : Path) (enumerations : List Path) (root : String) : Running := do
  let s ← (loadSchemas [schema] enumerations).adapt Stop.ofLoadError
  let g ← (s.grammar root .all).mapError fun e => Stop.ofGrammarError (.compile e)
  match g.fault? with
  | some e => throw (Stop.ofGrammarError (.render e))
  | none =>
    return (g.listing s!"Grammar for {root}").text ++ s!"\nOK {g.elements.length} element(s)\n"

def runBuild (directory manifest : Path) : Running := do
  let m ← (loadManifest (directory.resolve manifest)).adapt Stop.ofManifestError
  let s ← (loadSchemas m.schemaPaths m.enumerationPaths).adapt Stop.ofLoadError
  let text ← (s.grammarText m.root m.lists).mapError Stop.ofGrammarError
  deliver text m.outputPath fun path =>
    if m.name.canShow then .ok s!"Built {m.name.text}: {path}" else .error (.badValue .noSuchValue)

def run (directory : Path) : Command → Running
  | compile schema enumerations root output lists =>
    runCompile schema enumerations root output lists
  | check schema enumerations root => runCheck schema enumerations root
  | build manifest => runBuild directory manifest
  | version => return versionText
  | help => return usage

end SchemaGrammar.Command
