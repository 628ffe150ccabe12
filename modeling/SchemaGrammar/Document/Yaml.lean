import SchemaGrammar.Document.Yaml.Composition
import SchemaGrammar.Document.Yaml.Layout

/-!
# YAML texts

A YAML 1.1 text is one document, or nothing at all, which is null. Its line ends are single
characters.
-/
namespace SchemaGrammar.Document.Yaml

def dropMark (cs : List Char) : List Char := if cs.head? = some '\ufeff' then cs.drop 1 else cs

def read (text : String) : Except Fault Value :=
  let cs := text.toList
  if cs.all isAllowed then do
    match ← document (tokens (place (dropMark cs))) with
    | none => return .null
    | some n => n.value
  else .error .malformed

end SchemaGrammar.Document.Yaml
