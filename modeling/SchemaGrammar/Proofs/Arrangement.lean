import SchemaGrammar.Proofs.DeclarationOrder
import SchemaGrammar.Proofs.Json.Texts
import SchemaGrammar.Proofs.Notation.Signs

/-!
# The arrangement of a grammar

The elements of a grammar with all lists stand in a fixed order: the start production, then what
each declaration becomes, from the last declaration to the first, and the built-in elements. Each
can be found by its name. The object element of a record names each property once, in declared
order, and the element of an enumeration has one alternative for each member.
-/
namespace SchemaGrammar

namespace Rule

mutual

/-- The exact texts that a rule is made of, from left to right and with repeats. -/
def literals : Rule → List String
  | .sequence rules => literalsOf rules
  | .group rules _ => literalsOf rules
  | .literal text => [text]
  | .reference _ => []
  | .charClass _ => []
  | .choice first second others => first.literals ++ second.literals ++ literalsOf others

def literalsOf : List Rule → List String
  | [] => []
  | rule :: rules => rule.literals ++ literalsOf rules

end

@[simp] theorem literalsOf_eq_flatMap (rules : List Rule) :
    literalsOf rules = rules.flatMap literals := by
  induction rules with
  | nil => rfl
  | cons rule rules ih => simp [literalsOf, ih]

end Rule

theorem ItemType.literals_rule (type : ItemType) : type.rule.literals = [] := by
  cases type <;> rfl

/-- The rule of a value refers to elements and has no texts of its own. -/
theorem SlotType.literals_rule (type : SlotType) : type.rule.literals = [] := by
  cases type with
  | item type => exact type.literals_rule
  | union first second others =>
    simp [rule, Rule.literals, ItemType.literals_rule, List.flatMap_map]

def Property.key (p : Property) : String := Text.quoted p.name ++ ":"

theorem Property.key_injective {p q : Property} (h : p.key = q.key) : p.name = q.name := by
  have hchars := congrArg String.toList h
  simp only [key, String.toList_append, Text.toList_quoted] at hchars
  exact ((Json.isString_quote p.name).unique (Json.isString_quote q.name) hchars).1

/-- A key begins with a quote. -/
theorem Property.key_ne {p : Property} {text : String} (h : text.toList.head? ≠ some '"') :
    p.key ≠ text := by
  rintro rfl
  simp [key, Text.quote] at h

/-- Texts with a separator between them, one by one. -/
theorem intercalate_singletons (separator : String) (texts : List String) :
    [separator].intercalate (texts.map ([·])) = texts.intersperse separator := by
  induction texts with
  | nil => rfl
  | cons t texts ih =>
    cases texts with
    | nil => simp [List.intercalate]
    | cons u texts =>
      simp only [List.map_cons, List.intercalate_cons_cons] at ih ⊢
      rw [ih, List.intersperse_cons_cons]
      rfl

/-- The separator does not count where another text is counted. -/
theorem count_intersperse {separator text : String} (h : text ≠ separator) (texts : List String) :
    (texts.intersperse separator).count text = texts.count text := by
  induction texts with
  | nil => rfl
  | cons t texts ih =>
    cases texts with
    | nil => rfl
    | cons u texts =>
      rw [List.intersperse_cons_cons, List.count_cons, List.count_cons_of_ne h.symm, ih,
        ← List.count_cons]

namespace Record

variable {s : Schema} {r : Record}

def valueRules (p : Property) (type : SlotType) : List Rule :=
  [Builtin.blank.reference, .literal p.key, Builtin.blank.reference, type.rule]

/-- What the object element of a record is made of. -/
structure IsObject (s : Schema) (r : Record) (e : Element) : Prop where
  name_eq : e.name = r.name
  /-- There is one alternative, with a comma before each property but the first. -/
  alternatives_eq : ∃ types, List.Forall₂ (fun p type => s.scope.slot? p.type = .ok type)
    r.properties types ∧
    e.alternatives = [.sequence (.literal "\x7b" ::
      [Rule.literal ","].intercalate (List.zipWith valueRules r.properties types) ++
      [.literal "\x7d"])]
  literals_eq : e.alternatives.flatMap Rule.literals =
    "\x7b" :: (r.properties.map Property.key).intersperse "," ++ ["\x7d"]
  count_key : ∀ p ∈ r.properties, (e.alternatives.flatMap Rule.literals).count p.key = 1

theorem memberRules_eq_intercalate (members : List (Property × Rule)) :
    memberRules members =
      [Rule.literal ","].intercalate (members.map fun m => propertyRules m.1 m.2) := by
  cases members with
  | nil => rfl
  | cons m members =>
    rw [memberRules]
    induction members generalizing m with
    | nil => simp [List.intercalate]
    | cons m' members ih =>
      have hrest := ih m'
      rw [List.map_cons] at hrest
      rw [List.flatMap_cons, List.map_cons, List.map_cons, List.intercalate_cons_cons, ← hrest]
      simp

theorem map_literals_valueRules {ps : List Property} {types : List SlotType}
    (h : ps.length = types.length) :
    (List.zipWith valueRules ps types).map (List.flatMap Rule.literals) =
      ps.map fun p => [p.key] := by
  induction ps generalizing types with
  | nil => simp
  | cons p ps ih =>
    cases types with
    | nil => simp at h
    | cons type types =>
      rw [List.zipWith_cons_cons, List.map_cons, ih (Nat.succ.inj h), List.map_cons]
      simp [valueRules, Rule.literals, Builtin.reference, SlotType.literals_rule]

/-- No other text of the element is that of a key. -/
theorem count_key_eq_one {p : Property} (hnodup : (r.properties.map Property.name).Nodup)
    (hp : p ∈ r.properties) :
    ("\x7b" :: (r.properties.map Property.key).intersperse "," ++ ["\x7d"]).count p.key = 1 := by
  have hkeys : (r.properties.map Property.key).Nodup := by
    have hinj := List.inj_on_of_nodup_map hnodup
    exact (List.Nodup.of_map _ hnodup).map_on fun p hp q hq hkey =>
      hinj hp hq (Property.key_injective hkey)
  have hopening : p.key ≠ "\x7b" := Property.key_ne (by decide)
  have hcomma : p.key ≠ "," := Property.key_ne (by decide)
  have hclosing : p.key ≠ "\x7d" := Property.key_ne (by decide)
  rw [List.count_append, List.count_cons_of_ne hopening.symm, count_intersperse hcomma,
    List.count_eq_one_of_mem hkeys (List.mem_map_of_mem hp), List.count_cons_of_ne hclosing.symm,
    List.count_nil]

theorem isObject_of_yields {root : String} {e : Element}
    (h : (Production.object r).Yields s root e) : r.IsObject s e := by
  obtain ⟨-, hrepeated, members, hmembers, rfl⟩ := h
  obtain ⟨types, htypes, hzip⟩ := exists_types hmembers
  have hrules : members.map (fun m => propertyRules m.1 m.2) =
      List.zipWith valueRules r.properties types := by
    rw [hzip, List.map_zipWith]
    rfl
  have halternatives : (objectElement r.name members).alternatives =
      [.sequence (.literal "\x7b" ::
        [Rule.literal ","].intercalate (List.zipWith valueRules r.properties types) ++
        [.literal "\x7d"])] := by
    rw [Element.alternatives, objectElement, memberRules_eq_intercalate, hrules]
  have hliterals : (objectElement r.name members).alternatives.flatMap Rule.literals =
      "\x7b" :: (r.properties.map Property.key).intersperse "," ++ ["\x7d"] := by
    rw [halternatives, List.flatMap_singleton, Rule.literals, Rule.literalsOf_eq_flatMap,
      List.flatMap_append, List.flatMap_cons, flatMap_intercalate,
      map_literals_valueRules htypes.length_eq, ← intercalate_singletons, List.map_map]
    rfl
  refine ⟨rfl, ⟨types, htypes, halternatives⟩, hliterals, fun p hp => ?_⟩
  rw [hliterals]
  exact count_key_eq_one (repeatedProperty?_eq_none_iff.mp hrepeated) hp

end Record

structure Enumeration.IsChoice (en : Enumeration) (e : Element) : Prop where
  name_eq : e.name = en.name
  alternatives_eq : e.alternatives.map some =
    en.members.map fun m => m.value.map fun v => .literal (Text.quoted v)

theorem Enumeration.isChoice_of_element {en : Enumeration} {e : Element}
    (h : en.element = .ok e) : en.IsChoice e := by
  obtain ⟨hname, hall⟩ := element_eq_ok_iff.mp h
  refine ⟨hname, ?_⟩
  generalize en.members = members, e.alternatives = alternatives at hall
  induction hall with
  | nil => rfl
  | cons hm _ ih =>
    obtain ⟨v, hv, rfl⟩ := alternative_eq_ok_iff.mp hm
    rw [List.map_cons, List.map_cons, ih, hv, Option.map_some]

inductive Declaration.Becomes (s : Schema) : Declaration → List Element → Prop
  | record {r : Record} {e : Element} (h : r.IsObject s e) :
    Becomes s (.record r) [e, Record.listElement r.name]
  | enumeration {en : Enumeration} {e : Element} (h : en.IsChoice e) :
    Becomes s (.enumeration en) [e]

theorem Declaration.becomes_of_elements {s : Schema} {d : Declaration} {es : List Element}
    (h : d.elements s.scope = .ok es) : d.Becomes s es := by
  -- the root has no influence on the elements of a declaration
  obtain ⟨hdata, hyields⟩ := (Declaration.elements_eq_ok_iff "").mp h
  cases d with
  | record r =>
    obtain ⟨e, _, hobject, hrest, rfl⟩ := List.forall₂_cons_left_iff.mp hyields
    obtain ⟨_, _, hlist, hnil, rfl⟩ := List.forall₂_cons_left_iff.mp hrest
    cases hlist
    cases hnil
    exact .record (Record.isObject_of_yields hobject)
  | enumeration en =>
    obtain ⟨e, _, hvalues, hnil, rfl⟩ := List.forall₂_cons_left_iff.mp hyields
    cases hnil
    exact .enumeration (Enumeration.isChoice_of_element hvalues)
  | other o => exact hdata.elim

def Declaration.elementNames : Declaration → List String
  | .record r => [r.name, r.name ++ "list"]
  | .enumeration en => [en.name]
  | .other _ => []

theorem Declaration.Becomes.names_eq {s : Schema} {d : Declaration} {es : List Element}
    (h : d.Becomes s es) : es.map Element.name = d.elementNames := by
  cases h with
  | record h => simp [elementNames, h.name_eq, Record.listElement, listName]
  | enumeration h => simp [elementNames, h.name_eq]

namespace Schema

/-- How the elements of a grammar with all lists stand. -/
structure Arranged (s : Schema) (root : String) (g : Grammar) : Prop where
  names_nodup : g.names.Nodup
  /-- The start production comes first, later declarations before earlier ones. -/
  elements_eq : ∃ parts, List.Forall₂ (Declaration.Becomes s) s.declarations parts ∧
    g.elements = ⟨"root", .reference root, []⟩ :: (parts.reverse.flatten ++ Builtin.elements)
  names_eq : g.names = "root" :: (s.declarations.reverse.flatMap Declaration.elementNames ++
    ["string", "boolean", "ws", "number", "stringlist", "numberlist"])
  find?_iff : ∀ name e, g.find? name = some e ↔ e ∈ g.elements ∧ e.name = name

theorem names_of_becomes {s : Schema} {ds : List Declaration} {parts : List (List Element)}
    (h : List.Forall₂ (Declaration.Becomes s) ds parts) :
    parts.reverse.flatten.map Element.name = ds.reverse.flatMap Declaration.elementNames := by
  have hnames : parts.map (List.map Element.name) = ds.map Declaration.elementNames := by
    induction h with
    | nil => rfl
    | cons hd _ ih => rw [List.map_cons, List.map_cons, hd.names_eq, ih]
  rw [List.map_flatten, List.map_reverse, hnames, ← List.map_reverse, List.flatMap_def]

/-- The grammar with all lists has distinct names and loses no declaration. -/
theorem arranged_of_grammar {s : Schema} {root : String} {g : Grammar}
    (h : s.grammar root .all = .ok g) : s.Arranged root g := by
  have hnodup : g.names.Nodup := (compiled_of_grammar h).names_nodup
  obtain ⟨parts, hparts, -, -, rfl⟩ := grammar_eq_ok_iff.mp h
  have hbecomes : List.Forall₂ (Declaration.Becomes s) s.declarations parts :=
    (mapM_eq_ok_iff.mp hparts).imp fun _ _ hd => Declaration.becomes_of_elements hd
  refine ⟨hnodup, ⟨parts, hbecomes, rfl⟩, ?_, fun _ _ => Grammar.find?_eq_some_iff hnodup⟩
  rw [Grammar.names, List.map_cons, listed, List.map_append, names_of_becomes hbecomes]
  rfl

theorem arranged_tree : ∃ g, tree.grammar "Node" .all = .ok g ∧ tree.Arranged "Node" g ∧
    g.names = ["root", "Other", "Otherlist", "Kind", "Node", "Nodelist"] ++ Builtin.names :=
  ⟨_, rfl, arranged_of_grammar rfl, rfl⟩

end Schema

end SchemaGrammar
