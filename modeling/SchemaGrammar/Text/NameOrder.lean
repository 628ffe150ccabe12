/-!
# Names in order

Messages list names once each, by code point.
-/
namespace SchemaGrammar.Text

/-- The names without repeats, ascending by code point. -/
def sortedNames (names : List String) : List String :=
  names.eraseDups.mergeSort fun a b => a ≤ b

def repeatedNames (names : List String) : List String :=
  names.eraseDups.filter fun name => 1 < names.count name

end SchemaGrammar.Text
