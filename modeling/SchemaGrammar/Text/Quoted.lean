import SchemaGrammar.Text.Digits

/-!
# Quoted strings

The text of a JSON string: quotes around it, and inside it an escape for the quote, the backslash
and each control character below the space. Every other character stands for itself.
-/
namespace SchemaGrammar.Text

def escape (c : Char) : List Char :=
  match c with
  | '"' => ['\\', '"']
  | '\\' => ['\\', '\\']
  | '\n' => ['\\', 'n']
  | '\r' => ['\\', 'r']
  | '\t' => ['\\', 't']
  | '\x08' => ['\\', 'b']
  | '\x0c' => ['\\', 'f']
  | c => if c.toNat < 32 then '\\' :: 'u' :: hexDigits 4 c.toNat else [c]

def quote (cs : List Char) : List Char :=
  '"' :: cs.flatMap escape ++ ['"']

def quoted (s : String) : String :=
  String.ofList (quote s.toList)

@[simp] theorem toList_quoted (s : String) : (quoted s).toList = quote s.toList := by
  simp [quoted]

end SchemaGrammar.Text
