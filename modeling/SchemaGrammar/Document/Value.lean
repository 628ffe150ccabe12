import SchemaGrammar.Document.Fault
import SchemaGrammar.Document.Moment
import SchemaGrammar.Number.Shortest
import SchemaGrammar.Text.Shown

/-!
# Values of documents

What a JSON, YAML or TOML text holds. Integers are of any size and kept apart from the other
numbers, which are doubles.
-/
namespace SchemaGrammar.Document

inductive Value where
  | null
  | bool (b : Bool)
  | int (n : Int)
  | number (x : Double)
  | moment (m : Moment)
  | string (s : String)
  | array (items : List Value)
  /-- Fields with distinct names, in the order in which the names first occurred. -/
  | object (fields : List (String × Value))
  deriving Repr, Inhabited

def setField (name : String) (v : Value) : List (String × Value) → List (String × Value)
  | [] => [(name, v)]
  | (n, w) :: fields => if n = name then (n, v) :: fields else (n, w) :: setField name v fields

/-- The object of fields of which the last of each name counts. -/
def Value.ofFields (fields : List (String × Value)) : Value :=
  .object (fields.foldl (fun fields (name, v) => setField name v fields) [])

def field? (name : String) :
    (fields : List (String × Value)) → Option { v : Value // sizeOf v < sizeOf fields }
  | [] => none
  | (n, v) :: fields =>
    if n = name then some ⟨v, by simp; omega⟩
    else (field? name fields).map fun ⟨w, h⟩ => ⟨w, by simp; omega⟩

namespace Value

mutual

def shown : Value → String
  | null => "None"
  | bool true => "True"
  | bool false => "False"
  | int n => toString n
  | number x => x.text
  | moment m => m.shown
  | string s => Text.shown s
  | array items => Text.shownList (shownItems items)
  | object fields => "\x7b" ++ ", ".intercalate (shownFields fields) ++ "\x7d"

def shownItems : List Value → List String
  | [] => []
  | item :: items => item.shown :: shownItems items

def shownFields : List (String × Value) → List String
  | [] => []
  | (name, v) :: fields => (Text.shown name ++ ": " ++ v.shown) :: shownFields fields

end

mutual

/-- Whether a message can show a value: an integer of too many digits cannot be shown. -/
def canShow : Value → Bool
  | int n => (toString n.natAbs).length ≤ greatestDigits
  | array items => canShowItems items
  | object fields => canShowFields fields
  | _ => true

def canShowItems : List Value → Bool
  | [] => true
  | item :: items => item.canShow && canShowItems items

def canShowFields : List (String × Value) → Bool
  | [] => true
  | (_, v) :: fields => v.canShow && canShowFields fields

end

/-- A value as it stands in running text: a string without quotes, a moment in digits, anything else
as shown. -/
def text : Value → String
  | string s => s
  | moment m => m.text
  | v => v.shown

end Value

end SchemaGrammar.Document
