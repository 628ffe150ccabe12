import Mathlib.Logic.Relation
import SchemaGrammar.Proofs.Faults
import SchemaGrammar.Proofs.Json.Texts
import SchemaGrammar.Proofs.ReferencedLists

/-!
# Documents are JSON

If the texts of the built-in names are blanks, strings and numbers of JSON, then each text of the
start production is the text of one object, which the root record describes. A property whose type
is the built-in name of blanks gets no value at all, so the records that the root can hold must have
none of that type.
-/
namespace SchemaGrammar
open Computability

structure Json.Leaves (blanks strings numbers : Language Char) : Prop where
  blank : ∀ w ∈ blanks, Json.IsBlank w
  string : ∀ w ∈ strings, ∃ v, Json.IsString v w
  number : ∀ w ∈ numbers, Json.IsNumber w

/-- The texts of the built-in names are blanks, strings and numbers of JSON. -/
def Grammar.YieldsJson (g : Grammar) (chars : Assignment) : Prop :=
  Json.Leaves (g.language chars Builtin.blank.name) (g.language chars Builtin.string.name)
    (g.language chars Builtin.number.name)

namespace Schema

mutual

inductive Describes (s : Schema) : Reading → Json → Prop
  | string {v} : Describes s (.builtin .string) (.string v)
  | number {w} : Describes s (.builtin .number) (.number w)
  | boolean {b} : Describes s (.builtin .boolean) (.bool b)
  | stringList {vs} : (∀ v ∈ vs, ∃ t, v = .string t) →
      Describes s (.builtin .stringList) (.array vs)
  | numberList {vs} : (∀ v ∈ vs, ∃ w, v = .number w) →
      Describes s (.builtin .numberList) (.array vs)
  | value {e m v} : m ∈ e.members → m.value = some v → Describes s (.enumeration e) (.string v)
  | record {r ms} : (ms.map Prod.fst).Nodup → DescribesMembers s r.properties ms →
      Describes s (.record r) (.object ms)
  | array {r vs} : (∀ v ∈ vs, Describes s (.record r) v) → Describes s (.array r) (.array vs)

/-- The members that properties describe, in order: each has the name of its property, and a value
that a spelling of the type describes. -/
inductive DescribesMembers (s : Schema) : List Property → List (String × Json) → Prop
  | nil : DescribesMembers s [] []
  | cons {p ps spelling x v ms} : spelling ∈ p.type.spellings → s.reading? spelling = some x →
      Describes s x v → DescribesMembers s ps ms →
      DescribesMembers s (p :: ps) ((p.name, v) :: ms)

end

/-- Some property of a record can stand for the other one, or for an array of it. -/
def Holds (s : Schema) (r r' : Record) : Prop :=
  ∃ p ∈ r.properties, ∃ spelling ∈ p.type.spellings,
    s.reading? spelling = some (.record r') ∨ s.reading? spelling = some (.array r')

/-- No property of a record can stand for blanks. -/
def HasValues (s : Schema) (r : Record) : Prop :=
  ∀ p ∈ r.properties, ∀ spelling ∈ p.type.spellings,
    s.reading? spelling ≠ some (.builtin .blank)

theorem map_fst_of_describesMembers {s : Schema} {ps : List Property} {ms : List (String × Json)}
    (h : s.DescribesMembers ps ms) : ms.map Prod.fst = ps.map Property.name := by
  induction ps generalizing ms with
  | nil =>
    cases h
    rfl
  | cons p ps ih =>
    cases h with
    | cons _ _ _ h => rw [List.map_cons, List.map_cons, ih h]

end Schema

namespace Json

/-! ## Texts that are put together -/

theorem Written.append_blank {v : Json} {w x : List Char} (h : Written (.element v) w)
    (hx : IsBlank x) : Written (.element v) (w ++ x) := by
  cases h with
  | element hu hw hx' =>
    rw [List.append_assoc]
    refine .element hu hw ?_
    intro c hc
    rcases List.mem_append.mp hc with hc | hc
    · exact hx' c hc
    · exact hx c hc

theorem isBlank_nil : IsBlank [] := by
  intro c hc
  cases hc

/-- A value with blanks before it. -/
theorem Written.element_of_value {v : Json} {u w : List Char} (hu : IsBlank u)
    (hw : Written (.value v) w) : Written (.element v) (u ++ w) := by
  have helement := Written.element hu hw isBlank_nil
  rwa [List.append_nil] at helement

section Lists

variable {blanks items : Language Char} {P : Json → Prop}
  (hblanks : ∀ w ∈ blanks, IsBlank w) (hitems : ∀ w ∈ items, ∃ v, P v ∧ Written (.value v) w)
include hblanks hitems

/-- Items with a comma before each, behind an element; the blanks at the end go to the last. -/
theorem exists_items {w x : List Char} (hw : w ∈ ({[',']} * blanks * items)∗) (hx : x ∈ blanks)
    {v : Json} {y : List Char} (hy : Written (.element v) y) :
    ∃ vs y' w', (∀ v ∈ vs, P v) ∧ y ++ w ++ x = y' ++ w' ∧ Written (.element v) y' ∧
      Written (.items vs) w' := by
  obtain ⟨parts, rfl, hparts⟩ := hw
  induction parts generalizing v y with
  | nil => exact ⟨[], y ++ x, [], nofun, by simp, hy.append_blank (hblanks x hx), .noItems⟩
  | cons part parts ih =>
    obtain ⟨_, ⟨_, rfl, u, hu, rfl⟩, z, hz, rfl⟩ := hparts part List.mem_cons_self
    obtain ⟨v', hv', hz'⟩ := hitems z hz
    have hrest : ∀ part ∈ parts, part ∈ {[',']} * blanks * items := by
      intro part hpart
      exact hparts part (List.mem_cons_of_mem _ hpart)
    obtain ⟨vs, y', w', hvs, htext, hy', hw'⟩ :=
      ih (.element_of_value (hblanks u hu) hz') hrest
    refine ⟨v' :: vs, y, ',' :: y' ++ w', ?_, ?_, hy, .items hy' hw'⟩
    · exact List.forall_mem_cons.mpr ⟨hv', hvs⟩
    · simp only [List.flatten_cons, List.append_assoc, List.cons_append, List.nil_append]
        at htext ⊢
      rw [htext]

/-- A list of the grammar is an array. -/
theorem exists_array {w : List Char} (hw : w ∈ Builtin.lists blanks items) :
    ∃ vs, (∀ v ∈ vs, P v) ∧ Written (.value (.array vs)) w := by
  rcases hw with ⟨_, ⟨_, rfl, u, hu, rfl⟩, _, rfl, rfl⟩ |
    ⟨_, ⟨_, ⟨_, ⟨_, ⟨_, rfl, u, hu, rfl⟩, z, hz, rfl⟩, w, hw, rfl⟩, x, hx, rfl⟩, _, rfl, rfl⟩
  · exact ⟨[], nofun, .array (.noElements (hblanks u hu))⟩
  · obtain ⟨v, hv, hz'⟩ := hitems z hz
    obtain ⟨vs, y', w', hvs, htext, hy', hw'⟩ :=
      exists_items hblanks hitems hw hx (.element_of_value (hblanks u hu) hz')
    refine ⟨v :: vs, List.forall_mem_cons.mpr ⟨hv, hvs⟩, ?_⟩
    have harray := Written.array (.elements hy' hw')
    rw [← htext] at harray
    simpa using harray

end Lists

end Json

namespace Schema

variable {s : Schema} {chars : Assignment} {root : String} {g : Grammar}

/-- The value that a built-in kind of text describes. -/
theorem exists_json_of_builtin {b : Builtin} {w : List Char} (hw : w ∈ b.texts chars)
    (hleaves : Json.Leaves (Builtin.blanks chars) (Builtin.strings chars) (Builtin.numbers chars))
    (hb : b ≠ .blank) : ∃ v, s.Describes (.builtin b) v ∧ Json.Written (.value v) w := by
  cases b with
  | string =>
    obtain ⟨t, ht⟩ := hleaves.string w hw
    exact ⟨.string t, .string, .atom (.string ht)⟩
  | boolean =>
    rcases hw with rfl | rfl
    · exact ⟨.bool true, .boolean, .atom .bool⟩
    · exact ⟨.bool false, .boolean, .atom .bool⟩
  | blank => exact absurd rfl hb
  | number => exact ⟨.number w, .number, .atom (.number (hleaves.number w hw))⟩
  | stringList =>
    have hstrings : ∀ w ∈ Builtin.strings chars,
        ∃ v, (∃ t, v = .string t) ∧ Json.Written (.value v) w := by
      intro w hw
      obtain ⟨t, ht⟩ := hleaves.string w hw
      exact ⟨.string t, ⟨t, rfl⟩, .atom (.string ht)⟩
    obtain ⟨vs, hvs, hwritten⟩ := Json.exists_array hleaves.blank hstrings hw
    exact ⟨.array vs, .stringList hvs, hwritten⟩
  | numberList =>
    have hnumbers : ∀ w ∈ Builtin.numbers chars,
        ∃ v, (∃ t, v = .number t) ∧ Json.Written (.value v) w := by
      intro w hw
      exact ⟨.number w, ⟨w, rfl⟩, .atom (.number (hleaves.number w hw))⟩
    obtain ⟨vs, hvs, hwritten⟩ := Json.exists_array hleaves.blank hnumbers hw
    exact ⟨.array vs, .numberList hvs, hwritten⟩

/-! ## Texts that conform are JSON -/

/-- A reading is not of blanks, and its record is one of a set. -/
def ReadingWithin (held : Set Record) : Reading → Prop
  | .builtin b => b ≠ .blank
  | .enumeration _ => True
  | .record r | .array r => r ∈ held

def TypeWithin (s : Schema) (held : Set Record) (t : TypeExpr) : Prop :=
  ∀ spelling ∈ t.spellings, ∀ x, s.reading? spelling = some x → ReadingWithin held x

def ShapeWithin (s : Schema) (held : Set Record) : Shape → Prop
  | .record r | .items r => r ∈ held
  | .properties ps | .others ps => ∀ p ∈ ps, s.TypeWithin held p.type
  | .property p => s.TypeWithin held p.type
  | .type t => s.TypeWithin held t
  | .reading x => ReadingWithin held x

def DescribesType (s : Schema) (t : TypeExpr) (v : Json) : Prop :=
  ∃ spelling ∈ t.spellings, ∃ x, s.reading? spelling = some x ∧ s.Describes x v

/-- The text of a shape is a part of a JSON text that the shape describes. -/
def HasJson (s : Schema) : Shape → List Char → Prop
  | .record r, w => ∃ v, s.Describes (.record r) v ∧ Json.Written (.value v) w
  | .properties ps, w => ∃ ms, s.DescribesMembers ps ms ∧ Json.Written (.fields ms) w
  | .others ps, w => ∃ ms, s.DescribesMembers ps ms ∧ Json.Written (.members ms) w
  | .property p, w => ∃ v, s.DescribesType p.type v ∧ Json.Written (.member p.name v) w
  | .type t, w => ∃ v, s.DescribesType t v ∧ Json.Written (.value v) w
  | .reading x, w => ∃ v, s.Describes x v ∧ Json.Written (.value v) w
  | .items r, w => ∃ vs, (∀ v ∈ vs, s.Describes (.record r) v) ∧ Json.Written (.items vs) w

theorem hasJson_of_conforms {held : Set Record}
    (hleaves : Json.Leaves (Builtin.blanks chars) (Builtin.strings chars) (Builtin.numbers chars))
    (hheld : ∀ r ∈ held, (r.properties.map Property.name).Nodup ∧
      ∀ p ∈ r.properties, s.TypeWithin held p.type)
    {x : Shape} {w : List Char} (hw : Conforms s chars x w) (hx : s.ShapeWithin held x) :
    s.HasJson x w := by
  -- the set of records goes along, since it is closed under what its records hold
  induction hw with
  | @record r w _ ih =>
    obtain ⟨hnodup, hwithin⟩ := hheld r hx
    obtain ⟨ms, hms, hwritten⟩ := ih hwithin
    refine ⟨.object ms, .record ?_ hms, .object hwritten⟩
    rwa [map_fst_of_describesMembers hms]
  | noProperties => exact ⟨[], .nil, .noFields Json.isBlank_nil⟩
  | properties _ _ ihp ihs =>
    obtain ⟨hp, hps⟩ := List.forall_mem_cons.mp hx
    obtain ⟨v, ⟨spelling, hspelling, y, hread, hv⟩, hwritten⟩ := ihp hp
    obtain ⟨ms, hms, hwrittens⟩ := ihs hps
    exact ⟨_, .cons hspelling hread hv hms, .fields hwritten hwrittens⟩
  | noOthers => exact ⟨[], .nil, .noMembers⟩
  | others _ _ ihp ihs =>
    obtain ⟨hp, hps⟩ := List.forall_mem_cons.mp hx
    obtain ⟨v, ⟨spelling, hspelling, y, hread, hv⟩, hwritten⟩ := ihp hp
    obtain ⟨ms, hms, hwrittens⟩ := ihs hps
    exact ⟨_, .cons hspelling hread hv hms, .members hwritten hwrittens⟩
  | @property p u v w hu hv _ ih =>
    obtain ⟨value, hvalue, hwritten⟩ := ih hx
    refine ⟨value, hvalue, ?_⟩
    have hmember := Json.Written.member (hleaves.blank u hu) (Json.isString_quote p.name)
      Json.isBlank_nil (.element_of_value (hleaves.blank v hv) hwritten)
    simpa using hmember
  | type hspelling hread _ ih =>
    obtain ⟨v, hv, hwritten⟩ := ih (hx _ hspelling _ hread)
    exact ⟨v, ⟨_, hspelling, _, hread, hv⟩, hwritten⟩
  | builtin hw => exact exists_json_of_builtin hw hleaves hx
  | @value e m v hm hv => exact ⟨.string v, .value hm hv, .atom (.string (Json.isString_quote v))⟩
  | object _ ih => exact ih hx
  | emptyArray => exact ⟨.array [], .array nofun, .array (.noElements Json.isBlank_nil)⟩
  | @array r u v w hu _ _ ihr ihs =>
    obtain ⟨value, hvalue, hwritten⟩ := ihr hx
    obtain ⟨vs, hvs, hwrittens⟩ := ihs hx
    refine ⟨.array (value :: vs), .array (List.forall_mem_cons.mpr ⟨hvalue, hvs⟩), ?_⟩
    have hfirst := Json.Written.element_of_value (hleaves.blank u hu) hwritten
    simpa using Json.Written.array (.elements hfirst hwrittens)
  | noItems => exact ⟨[], nofun, .noItems⟩
  | @items r u v w hu _ _ ihr ihs =>
    obtain ⟨value, hvalue, hwritten⟩ := ihr hx
    obtain ⟨vs, hvs, hwrittens⟩ := ihs hx
    refine ⟨value :: vs, List.forall_mem_cons.mpr ⟨hvalue, hvs⟩, ?_⟩
    have hfirst := Json.Written.element_of_value (hleaves.blank u hu) hwritten
    simpa using Json.Written.items hfirst hwrittens

/-! ## Documents of a schema -/

/-- The records that a record can hold, itself included. -/
def held (s : Schema) (r : Record) : Set Record :=
  {r' | r' ∈ s.records ∧ Relation.ReflTransGen s.Holds r r'}

theorem typeWithin_held {r r' : Record} (hr' : r' ∈ s.held r) (hvalues : s.HasValues r')
    {p : Property} (hp : p ∈ r'.properties) : s.TypeWithin (s.held r) p.type := by
  obtain ⟨-, hreach⟩ := hr'
  intro spelling hspelling x hread
  have hhas := has_of_reading? hread
  cases x with
  | builtin b =>
    rintro rfl
    exact hvalues p hp spelling hspelling hread
  | enumeration e => trivial
  | record r'' => exact ⟨hhas, hreach.tail ⟨p, hp, spelling, hspelling, .inl hread⟩⟩
  | array r'' => exact ⟨hhas, hreach.tail ⟨p, hp, spelling, hspelling, .inr hread⟩⟩

namespace Compiled

variable (h : s.Compiled root g)
include h

theorem propertyNames_nodup {r : Record} (hr : r ∈ s.records) :
    (r.properties.map Property.name).Nodup := by
  obtain ⟨e, -, -, hrepeated, -⟩ := h.exists_element (p := .object r) hr
  exact Record.repeatedProperty?_eq_none_iff.mp hrepeated

/-- Built-in elements are kept with any choice of lists. -/
theorem language_builtin (lists : ListElements) (b : Builtin) :
    (s.withLists lists g).language chars b.name = b.texts chars := by
  obtain ⟨e, he, hy⟩ := h.exists_element (p := .builtin b) trivial
  have hname : e.name = b.name := name_of_yields hy
  have hkept : e ∈ (s.withLists lists g).elements := by
    refine h.mem_withLists.mpr ⟨he, fun _ r hr heq => ?_⟩
    rw [heq] at hname
    cases h.eq_list_of_name_eq (p := .builtin b) trivial hr hname.symm
  rw [← hname, h.language_withLists chars lists hkept, hname]
  exact (h.language_solves chars).builtin_eq b

theorem yieldsJson_iff {lists : ListElements} : (s.withLists lists g).YieldsJson chars ↔
    Json.Leaves (Builtin.blanks chars) (Builtin.strings chars) (Builtin.numbers chars) := by
  unfold Grammar.YieldsJson
  rw [h.language_builtin, h.language_builtin, h.language_builtin]
  rfl

end Compiled

theorem language_root_eq {lists : ListElements} (h : s.grammar root lists = .ok g)
    (chars : Assignment) : ∃ r ∈ s.records, r.name = root ∧
      g.language chars Grammar.rootName = s.conforming chars (.record r) := by
  obtain ⟨g₀, hg₀, rfl⟩ := exists_compiled h
  obtain ⟨r, hr, hname, hlanguage⟩ := hg₀.language_root chars
  refine ⟨r, hr, hname, ?_⟩
  rw [← hlanguage]
  exact hg₀.language_withLists chars lists (hg₀.root_mem_withLists lists)

/-- Texts of a grammar are those of objects that the root record describes, if none of the records
they can hold has a property that stands for blanks. -/
theorem documents_are_json (s : Schema) (root : String) (lists : ListElements) (g : Grammar)
    (h : s.grammar root lists = .ok g) (chars : Assignment) (hchars : g.YieldsJson chars) :
    ∃ r ∈ s.records, r.name = root ∧ (r.properties.map Property.name).Nodup ∧
      ((∀ r' ∈ s.held r, s.HasValues r') → ∀ w ∈ g.language chars Grammar.rootName, ∃ ms,
        Json.Written (.element (.object ms)) w ∧
        (∀ v, Json.Written (.element v) w → v = .object ms) ∧
        ms.map Prod.fst = r.properties.map Property.name ∧
        s.Describes (.record r) (.object ms)) := by
  obtain ⟨r, hr, hname, hlanguage⟩ := language_root_eq h chars
  obtain ⟨g₀, hg₀, rfl⟩ := exists_compiled h
  refine ⟨r, hr, hname, hg₀.propertyNames_nodup hr, ?_⟩
  intro hvalues w hw
  rw [hlanguage] at hw
  have hheld : ∀ r' ∈ s.held r, (r'.properties.map Property.name).Nodup ∧
      ∀ p ∈ r'.properties, s.TypeWithin (s.held r) p.type := by
    intro r' hr'
    refine ⟨hg₀.propertyNames_nodup hr'.1, ?_⟩
    intro p hp
    exact typeWithin_held hr' (hvalues r' hr') hp
  have hmem : r ∈ s.held r := ⟨hr, .refl⟩
  obtain ⟨v, hv, hwritten⟩ := hasJson_of_conforms (hg₀.yieldsJson_iff.mp hchars) hheld hw hmem
  cases hv with
  | @record _ ms hnodup hms =>
    have helement := Json.Written.element_of_value Json.isBlank_nil hwritten
    refine ⟨ms, helement, ?_, map_fst_of_describesMembers hms, .record hnodup hms⟩
    intro v hv
    exact hv.value_unique helement

/-- Blanks, strings without escapes, and whole numbers. -/
def plainChars : Assignment := fun pattern =>
  if pattern = "[ \\t\\n]*" then {w | ∀ c ∈ w, c = ' ' ∨ c = '\t' ∨ c = '\n'}
  else if pattern = "([^\"]*)" then {w | ∀ c ∈ w, 32 ≤ c.toNat ∧ c ≠ '"' ∧ c ≠ '\\'}
  else if pattern = "[0-9]+" then {w | Json.IsWhole w}
  else 1

theorem leaves_plainChars : Json.Leaves (Builtin.blanks plainChars) (Builtin.strings plainChars)
    (Builtin.numbers plainChars) := by
  constructor
  · intro w hw c hc
    rcases hw c hc with rfl | rfl | rfl <;> rfl
  · rintro _ ⟨_, ⟨_, rfl, w, hw, rfl⟩, _, rfl, rfl⟩
    have hcontent : Json.Content (w.map Char.toNat) w := by
      induction w with
      | nil => exact .nil
      | cons c w ih =>
        obtain ⟨⟨hspace, hquote, hslash⟩, hw⟩ := List.forall_mem_cons.mp hw
        exact .plain hspace hquote hslash (ih hw)
    exact ⟨_, .mk hcontent⟩
  · rintro _ ⟨_, ⟨w, hw, _, rfl, rfl⟩, _, rfl, rfl⟩
    have hunsigned : ([] : List Char) = [] ∨ [] = ['-'] := .inl rfl
    exact .mk hunsigned hw (.inl rfl) (.inl rfl)

theorem yieldsJson_plainChars {lists : ListElements} (h : s.grammar root lists = .ok g) :
    g.YieldsJson plainChars := by
  obtain ⟨g₀, hg₀, rfl⟩ := exists_compiled h
  exact hg₀.yieldsJson_iff.mpr leaves_plainChars

theorem hasValues_of_item? {r : Record} (h : ∀ p ∈ r.properties, ∀ spelling ∈ p.type.spellings,
    s.scope.item? spelling ≠ some (.element Builtin.blank.name)) : s.HasValues r := by
  intro p hp spelling hspelling hread
  apply h p hp spelling hspelling
  rw [item?_eq_map_reading?, hread]
  rfl

theorem documents_of_tree : ∃ g, tree.grammar "Node" .referenced = .ok g ∧
    g.YieldsJson plainChars ∧ ∀ w ∈ g.language plainChars Grammar.rootName, ∃ ms,
      Json.Written (.element (.object ms)) w ∧ ms.map Prod.fst = ["kind", "nodes"] ∧
      tree.Describes (.record node) (.object ms) := by
  have hgrammar : tree.grammar "Node" .referenced = .ok _ := rfl
  have hchars := yieldsJson_plainChars hgrammar
  obtain ⟨r, hr, hname, -, hdocuments⟩ :=
    documents_are_json tree "Node" .referenced _ hgrammar plainChars hchars
  have hnode : ∀ r ∈ tree.records, r.name = "Node" → r = node := by decide
  obtain rfl := hnode r hr hname
  refine ⟨_, hgrammar, hchars, ?_⟩
  have hitems : ∀ r ∈ tree.records, ∀ p ∈ r.properties, ∀ spelling ∈ p.type.spellings,
      tree.scope.item? spelling ≠ some (.element Builtin.blank.name) := by decide
  intro w hw
  obtain ⟨ms, hwritten, -, hkeys, hdescribes⟩ :=
    hdocuments (fun r' hr' => hasValues_of_item? (hitems r' hr'.1)) w hw
  exact ⟨ms, hwritten, hkeys, hdescribes⟩

end Schema

/-! ## A property of blanks -/

namespace Json

theorem Written.exists_fields {v : Json} {w : List Char} (h : Written (.value v) ('\x7b' :: w)) :
    ∃ ms y, w = y ++ ['\x7d'] ∧ Written (.fields ms) y := by
  generalize htext : '\x7b' :: w = text at h
  cases h with
  | atom ha =>
    obtain ⟨c, t, rfl, -, -, hc⟩ := ha.exists_cons
    exact absurd (List.cons.inj htext).1.symm hc
  | array => cases (List.cons.inj htext).1
  | object hfields => exact ⟨_, _, (List.cons.inj htext).2, hfields⟩

/-- A name without a value does not begin the members of an object. -/
theorem not_written_fields (name : String) {ms : List (String × Json)} {y x : List Char}
    (heq : Text.quote name.toList ++ [':', '\x7d'] = y ++ '\x7d' :: x) :
    ¬ Written (.fields ms) y := by
  intro h
  cases h with
  | noFields hy =>
    obtain ⟨-, hrest⟩ := run_unique isBlank_nil hy (isBlank_eq_false_of_head rfl _)
      (isBlank_eq_false_of_head rfl _) heq
    cases (List.cons.inj hrest).1
  | fields hm ht =>
    cases hm with
    | member hu hname hx hz =>
      simp only [List.append_assoc, List.cons_append] at heq
      obtain ⟨rfl, hrest⟩ := run_unique isBlank_nil hu (isBlank_eq_false_of_head rfl _)
        (hname.isBlank_eq_false _) heq
      obtain ⟨rfl, rfl⟩ := (isString_quote name).unique hname hrest
      obtain ⟨rfl, hcolons⟩ := run_unique isBlank_nil hx (isBlank_eq_false_of_head rfl _)
        (isBlank_eq_false_of_head rfl _)
        ((List.append_right_inj (Text.quote name.toList)).mp hrest)
      -- what is left for the value is the brace
      exact hz.begins_element.append_ne isBlank_nil (by rintro c ⟨⟩; rfl) (List.cons.inj hcolons).2

/-- A member without a value leaves no JSON text. -/
theorem not_written_of_no_value (name : String) (v : Json) :
    ¬ Written (.element v) ('\x7b' :: (Text.quote name.toList ++ [':', '\x7d'])) := by
  generalize htext : '\x7b' :: (Text.quote name.toList ++ [':', '\x7d']) = text
  intro h
  cases h with
  | element hu hw hx =>
    rw [List.append_assoc] at htext
    obtain ⟨-, hrest⟩ := run_unique isBlank_nil hu (isBlank_eq_false_of_head rfl _)
      (hw.isBlank_eq_false _) htext
    obtain ⟨c, w, rfl, -⟩ := hw.exists_cons
    obtain ⟨rfl, hfields⟩ := List.cons.inj hrest
    obtain ⟨ms, y, rfl, hwritten⟩ := hw.exists_fields
    exact not_written_fields name (hfields.trans (List.append_assoc _ _ _)) hwritten

end Json

def Schema.padding : Record where
  name := "A"
  properties := [⟨"x", ⟨"ws", []⟩, none⟩]
  typeParameters := []
  location := none

/-- A text of that record is no JSON, since its property has no value. -/
theorem Schema.document_of_padding_not_json :
    ∃ g, (⟨[.record padding]⟩ : Schema).grammar "A" .all = .ok g ∧
      g.YieldsJson plainChars ∧ ∃ w ∈ g.language plainChars Grammar.rootName,
        ∀ v, ¬ Json.Written (.element v) w := by
  have hgrammar : (⟨[.record padding]⟩ : Schema).grammar "A" .all = .ok _ := rfl
  refine ⟨_, hgrammar, yieldsJson_plainChars hgrammar, "\x7b\"x\":\x7d".toList, ?_, ?_⟩
  · obtain ⟨r, hr, -, hlanguage⟩ := language_root_eq hgrammar plainChars
    obtain rfl := List.mem_singleton.mp hr
    have hblank : [] ∈ Builtin.blanks plainChars := by
      intro c hc
      cases hc
    have htype : Conforms ⟨[.record padding]⟩ plainChars (.type ⟨"ws", []⟩) [] :=
      .type List.mem_cons_self rfl (.builtin (b := .blank) hblank)
    have hproperty := Conforms.property (p := ⟨"x", _, none⟩) hblank hblank htype
    rw [hlanguage]
    exact .record (r := padding) (.properties hproperty .noOthers)
  · intro v
    exact Json.not_written_of_no_value "x" v

end SchemaGrammar
