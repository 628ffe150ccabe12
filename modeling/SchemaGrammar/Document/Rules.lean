import SchemaGrammar.Document.Check
import SchemaGrammar.Grammar

/-!
# Grammars as documents

A rule is an object whose `type` says which it is. A grammar is an object with the list of elements,
each with its name and its alternatives.
-/
namespace SchemaGrammar.Document

def tupleWith {α : Type} :
    (v : Value) → ((w : Value) → sizeOf w < sizeOf v → Check α) → Check (List α)
  | .array vs, check => itemsFrom 0 vs fun w h => check w (by simp; omega)
  | _, _ => .complain .notTuple

def choiceOf : List Rule → Check Rule
  | first :: second :: others => .valid (.choice first second others)
  | _ => .complain .tooShort

mutual

def rule (v : Value) : Check Rule :=
  match v with
  | .object fields =>
    match (field? "type" fields).map Subtype.val with
    | none => .complain .tagMissing
    | some (.string "sequence") =>
      ((ruleList fields).map Rule.sequence).under (.field "sequence")
    | some (.string "group") =>
      (Rule.group <$>
        requiredWith fields "sequence" (fun w _ => sequenceModel w) <*>
        optional fields "repeat" false boolean).under (.field "group")
    | some (.string "literal") =>
      ((required fields "literal" string).map Rule.literal).under (.field "literal")
    | some (.string "reference") =>
      ((required fields "referee" string).map Rule.reference).under (.field "reference")
    | some (.string "char-class") =>
      ((required fields "pattern" string).map Rule.charClass).under (.field "char-class")
    | some (.string "alternation") =>
      (requiredWith fields "options" fun w _ =>
        (tupleWith w fun x _ => rule x).andThen choiceOf).under (.field "alternation")
    | some _ => .complain .tagUnknown
  | _ => .complain .notTagged
termination_by 2 * sizeOf v
decreasing_by
  all_goals simp
  all_goals omega

/-- Checks an object that has to be a sequence, and gives its rules. -/
def sequenceModel (v : Value) : Check (List Rule) :=
  match v with
  | .object fields =>
    (fun _ rules => rules) <$> optional fields "type" () (literal "sequence") <*> ruleList fields
  | _ => .complain .notModel
termination_by 2 * sizeOf v
decreasing_by simp

def ruleList (fields : List (String × Value)) : Check (List Rule) :=
  optionalWith fields "rules" [] fun w _ => tupleWith w fun x _ => rule x
termination_by 2 * sizeOf fields
decreasing_by omega

end

def alternatives (v : Value) : Check (Rule × List Rule) :=
  (tupleWith v fun w _ => rule w).andThen fun rules =>
    match rules with
    | [] => .complain .tooShort
    | first :: others => .valid (first, others)

def element (v : Value) : Check Element :=
  (fieldsOf v).andThen fun fields =>
    (fun name (first, others) => ⟨name, first, others⟩) <$>
      required fields "identifier" string <*> required fields "alternatives" alternatives

def grammar (v : Value) : Check Grammar :=
  (fieldsOf v).andThen fun fields =>
    (optional fields "elements" [] fun w => tupleWith w fun x _ => element x).map Grammar.mk

/-! ## Writing -/

def sequenceOf (rules : List Value) : Value :=
  .object [("type", .string "sequence"), ("rules", .array rules)]

mutual

def ofRule : Rule → Value
  | .sequence rules => sequenceOf (ofRules rules)
  | .group rules repeats =>
    .object [("type", .string "group"), ("sequence", sequenceOf (ofRules rules)),
      ("repeat", .bool repeats)]
  | .literal text => .object [("type", .string "literal"), ("literal", .string text)]
  | .reference name => .object [("type", .string "reference"), ("referee", .string name)]
  | .charClass pattern => .object [("type", .string "char-class"), ("pattern", .string pattern)]
  | .choice first second others =>
    .object [("type", .string "alternation"),
      ("options", .array (ofRule first :: ofRule second :: ofRules others))]

def ofRules : List Rule → List Value
  | [] => []
  | r :: rules => ofRule r :: ofRules rules

end

def ofElement (e : Element) : Value :=
  .object [("identifier", .string e.name), ("alternatives", .array (ofRules e.alternatives))]

def ofGrammar (g : Grammar) : Value :=
  .object [("elements", .array (g.elements.map ofElement))]

end SchemaGrammar.Document
