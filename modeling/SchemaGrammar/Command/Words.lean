/-!
# Words of a command line

The words after a command are options and plain words. An option is written by its long name after
two dashes, with its value behind an equals sign or in the next word, or by its letter after one
dash, with its value in the same word or the next; letters of options without values may share a
word. Two dashes alone end the options. Whatever is not understood spoils the whole line.
-/
namespace SchemaGrammar.Command

structure OptionForm where
  name : String
  letter : Option Char
  hasValue : Bool

structure Given where
  name : String
  value : String
  deriving DecidableEq, Repr

structure Words where
  options : List Given := []
  plain : List String := []
  deriving DecidableEq, Repr

namespace Words

def has (w : Words) (name : String) : Bool := w.options.any (·.name = name)

def values (w : Words) (name : String) : List String :=
  (w.options.filter (·.name = name)).map Given.value

def value? (w : Words) (name : String) : Option String := (w.values name).getLast?

end Words

def letterOptions (forms : List OptionForm) (next : Option String) :
    List Char → Option (List Given × Bool)
  | [] => some ([], false)
  | c :: r =>
    (forms.find? (·.letter = some c)).bind fun form =>
      if form.hasValue then
        if r = [] then next.map fun v => ([⟨form.name, v⟩], true)
        else some ([⟨form.name, String.ofList r⟩], false)
      else (letterOptions forms next r).map fun (given, used) => (⟨form.name, ""⟩ :: given, used)

def wordOptions (forms : List OptionForm) (next : Option String) (word : List Char) :
    Option (List Given × Bool) :=
  let name := word.takeWhile (· ≠ '=')
  let value? : Option String :=
    match word.dropWhile (· ≠ '=') with
    | [] => none
    | _ :: v => some (String.ofList v)
  match forms.find? (fun form => "--".toList ++ form.name.toList = name) with
  | some form =>
    match form.hasValue, value? with
    | true, some v => some ([⟨form.name, v⟩], false)
    | true, none => next.map fun v => ([⟨form.name, v⟩], true)
    | false, some _ => none
    | false, none => some ([⟨form.name, ""⟩], false)
  | none => if "--".toList.isPrefixOf word then none else letterOptions forms next word.tail

/-- Splits a line into options and plain words. Unless they are `mixed`, all words from the first
plain one on are plain. -/
def words? (forms : List OptionForm) (mixed : Bool) (line : List String) : Option Words :=
  match line with
  | [] => some {}
  | word :: r =>
    if word = "--" then some { plain := r }
    else if word.toList.head? = some '-' && word ≠ "-" then
      (wordOptions forms r.head? word.toList).bind fun (given, used) =>
        (words? forms mixed (if used then r.tail else r)).map fun w =>
          { w with options := given ++ w.options }
    else if mixed then (words? forms mixed r).map fun w => { w with plain := word :: w.plain }
    else some { plain := word :: r }
termination_by line.length
decreasing_by
  · split
    all_goals simp only [List.length_tail, List.length_cons]
    all_goals omega
  · simp

end SchemaGrammar.Command
