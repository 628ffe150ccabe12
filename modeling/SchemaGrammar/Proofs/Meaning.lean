import SchemaGrammar.Proofs.Readings

/-!
# Grammars describe the texts that conform

Every element of a compiled grammar describes its texts by an equation in the texts of other names
(`Production.equation`). Both the language of the grammar and the texts that conform satisfy these
equations; the language is the least solution, and conformance is below every solution, by induction
on `Conforms`. Hence the language of the start production is what conforms to the root record.
-/
namespace SchemaGrammar
open Computability

theorem SlotType.mem_language_rule {chars names : Assignment} {t : SlotType} {w : List Char} :
    w ∈ t.rule.language chars names ↔ ∃ i ∈ t.items, w ∈ names i.name := by
  cases t with
  | item i => simp [SlotType.rule, ItemType.rule_eq, Rule.language, items]
  | union first second others =>
    rw [SlotType.rule, Rule.language, Language.mem_add, Language.mem_add, Rule.mem_union]
    simp [ItemType.rule_eq, Rule.language, items]

/-! ## The equations of the elements -/

namespace Schema

variable (s : Schema) (chars names : Assignment)

def typeTexts (t : TypeExpr) : Language Char :=
  {w | ∃ spelling ∈ t.spellings, ∃ x, s.reading? spelling = some x ∧ w ∈ names x.production.name}

def propertyTexts (p : Property) : Language Char :=
  names Builtin.blank.name * {Text.quote p.name.toList ++ [':']} * names Builtin.blank.name *
    s.typeTexts names p.type

def othersTexts : List Property → Language Char
  | [] => 1
  | p :: ps => {[',']} * s.propertyTexts names p * othersTexts ps

def propertiesTexts : List Property → Language Char
  | [] => 1
  | p :: ps => s.propertyTexts names p * s.othersTexts names ps

def itemsTexts (r : Record) : Language Char :=
  ({[',']} * names Builtin.blank.name * names r.name)∗

def productionTexts (root : String) : Production → Language Char
  | .start => names root
  | .object r => {['\x7b']} * s.propertiesTexts names r.properties * {['\x7d']}
  | .list r => {['[', ']']} +
      {['[']} * names Builtin.blank.name * names r.name * itemsTexts names r * {[']']}
  | .values e => {w | ∃ m ∈ e.members, ∃ v, m.value = some v ∧ w = Text.quote v.toList}
  | .builtin .stringList =>
    Builtin.lists (names Builtin.blank.name) (names Builtin.string.name)
  | .builtin .numberList =>
    Builtin.lists (names Builtin.blank.name) (names Builtin.number.name)
  | .builtin b => b.texts chars

variable {s chars names}

theorem language_of_slot? {t : TypeExpr} {slot : SlotType} (h : s.scope.slot? t = .ok slot) :
    slot.rule.language chars names = s.typeTexts names t := by
  ext w
  rw [SlotType.mem_language_rule]
  constructor
  · rintro ⟨i, hi, hw⟩
    obtain ⟨spelling, hspelling, x, hx, rfl⟩ := (mem_items_of_slot? h).mp hi
    exact ⟨spelling, hspelling, x, hx, by rwa [Reading.name_item] at hw⟩
  · rintro ⟨spelling, hspelling, x, hx, hw⟩
    refine ⟨x.item, (mem_items_of_slot? h).mpr ⟨spelling, hspelling, x, hx, rfl⟩, ?_⟩
    rwa [Reading.name_item]

theorem concatenation_propertyRules {p : Property} {m : Property × Rule} {record : String}
    (h : Record.resolveProperty s.scope record p = .ok m) :
    Rule.concatenation chars names (Record.propertyRules m.1 m.2) = s.propertyTexts names p := by
  unfold Record.resolveProperty at h
  cases ht : s.scope.slot? p.type with
  | error spelling => simp [ht] at h
  | ok slot =>
    simp only [ht, Except.ok.injEq] at h
    subst h
    simp only [Record.propertyRules, Rule.concatenation, Rule.language, Builtin.reference,
      language_of_slot? ht, propertyTexts, mul_assoc, mul_one, String.toList_append,
      Text.toList_quoted]
    rfl

theorem concatenation_others {record : String} {ps : List Property}
    {members : List (Property × Rule)}
    (h : List.Forall₂ (fun p m => Record.resolveProperty s.scope record p = .ok m) ps members) :
    Rule.concatenation chars names
        (members.flatMap fun (p, value) => .literal "," :: Record.propertyRules p value) =
      s.othersTexts names ps := by
  induction h with
  | nil => rfl
  | cons hp _ ih =>
    simp only [List.flatMap_cons, List.cons_append, Rule.concatenation, Rule.concatenation_append,
      concatenation_propertyRules hp, ih, Rule.language, othersTexts, mul_assoc]
    rfl

theorem concatenation_memberRules {record : String} {ps : List Property}
    {members : List (Property × Rule)}
    (h : List.Forall₂ (fun p m => Record.resolveProperty s.scope record p = .ok m) ps members) :
    Rule.concatenation chars names (Record.memberRules members) = s.propertiesTexts names ps := by
  cases h with
  | nil => rfl
  | cons hp hps =>
    rw [Record.memberRules, Rule.concatenation_append, concatenation_propertyRules hp,
      concatenation_others hps, propertiesTexts]

theorem mem_union_alternatives {e : Enumeration} {ms : List Member} {rules : List Rule}
    (h : List.Forall₂ (fun m rule => e.alternative m = .ok rule) ms rules) {w : List Char} :
    w ∈ Rule.union chars names rules ↔
      ∃ m ∈ ms, ∃ v, m.value = some v ∧ w = Text.quote v.toList := by
  induction h with
  | nil => simp [Rule.union]
  | cons hm _ ih =>
    obtain ⟨v, hv, rfl⟩ := Enumeration.alternative_eq_ok_iff.mp hm
    rw [Rule.union, Language.mem_add, ih, Rule.language, Text.toList_quoted]
    simp [hv]

theorem language_object {r : Record} {members : List (Property × Rule)}
    (h : List.Forall₂ (fun p m => Record.resolveProperty s.scope r.name p = .ok m)
      r.properties members) :
    (Record.objectElement r.name members).language chars names =
      {['\x7b']} * s.propertiesTexts names r.properties * {['\x7d']} := by
  simp only [Element.language, Element.alternatives, Record.objectElement, Rule.union,
    Rule.language, List.cons_append, Rule.concatenation, Rule.concatenation_append,
    concatenation_memberRules h, mul_assoc, mul_one, add_zero]
  rfl

theorem language_list (r : Record) :
    (Record.listElement r.name).language chars names =
      {['[', ']']} +
        {['[']} * names Builtin.blank.name * names r.name * itemsTexts names r * {[']']} := by
  simp only [Element.language, Element.alternatives, Record.listElement, Rule.union, Rule.star,
    Rule.language, Rule.concatenation, Builtin.reference, itemsTexts, mul_assoc, mul_one, add_zero,
    if_true]
  rfl

/-- The element of a production describes its texts. -/
theorem language_of_yields {root : String} {p : Production} {e : Element}
    (h : p.Yields s root e) : e.language chars names = s.productionTexts chars names root p := by
  cases p with
  | start =>
    subst h
    simp [Element.language, Element.alternatives, rootElement, Rule.union, Rule.language,
      productionTexts]
  | object r =>
    obtain ⟨-, -, members, hm, rfl⟩ := h
    exact language_object hm
  | list r =>
    subst h
    exact language_list r
  | values en =>
    ext w
    exact mem_union_alternatives (Enumeration.element_eq_ok_iff.mp h).2
  | builtin b =>
    subst h
    cases b <;>
      simp only [Element.language, Element.alternatives, Builtin.element, Builtin.emptyList,
        Builtin.listOf, Rule.union, Rule.star, Rule.language, Rule.concatenation,
        Builtin.reference, productionTexts, Builtin.texts, Builtin.strings, Builtin.blanks,
        Builtin.numbers, Builtin.lists, mul_assoc, mul_one, add_zero, if_true] <;>
      rfl

/-! ## Conformance is below every solution -/

/-- The declarations a shape speaks of are those of the schema. -/
def Covers (s : Schema) : Shape → Prop
  | .record r | .items r => r ∈ s.records
  | .reading x => s.Has x.production
  | _ => True

def shapeTexts (s : Schema) (names : Assignment) : Shape → Language Char
  | .record r => names r.name
  | .properties ps => s.propertiesTexts names ps
  | .others ps => s.othersTexts names ps
  | .property p => s.propertyTexts names p
  | .type t => s.typeTexts names t
  | .reading x => names x.production.name
  | .items r => itemsTexts names r

/-- Texts of names that satisfy the equations of all productions. -/
def Solves (s : Schema) (chars : Assignment) (root : String) (names : Assignment) : Prop :=
  ∀ p, s.Has p → names p.name = s.productionTexts chars names root p

theorem mem_itemsTexts_cons {r : Record} {u v w : List Char} (hu : u ∈ names Builtin.blank.name)
    (hv : v ∈ names r.name) (hw : w ∈ itemsTexts names r) :
    ',' :: u ++ v ++ w ∈ itemsTexts names r := by
  unfold itemsTexts at hw ⊢
  rw [← Language.one_add_self_mul_kstar_eq_kstar]
  exact .inr (Language.append_mem_mul (Language.append_mem_mul (cons_mem_mul hu) hv) hw)

/-- Built-in texts are those of the built-in names. -/
theorem Solves.builtin_eq {root : String} (h : s.Solves chars root names) (b : Builtin) :
    names b.name = b.texts chars := by
  have hblank : names Builtin.blank.name = Builtin.blanks chars := h (.builtin .blank) trivial
  have hstring : names Builtin.string.name = Builtin.strings chars := h (.builtin .string) trivial
  have hnumber : names Builtin.number.name = Builtin.numbers chars := h (.builtin .number) trivial
  have hb := h (.builtin b) trivial
  cases b with
  | stringList => rwa [productionTexts, hblank, hstring] at hb
  | numberList => rwa [productionTexts, hblank, hnumber] at hb
  | _ => exact hb

theorem mem_shapeTexts_of_conforms {root : String} (h : s.Solves chars root names) {x : Shape}
    {w : List Char} (hw : Conforms s chars x w) (hx : s.Covers x) : w ∈ s.shapeTexts names x := by
  have hblank : names Builtin.blank.name = Builtin.blanks chars := h.builtin_eq .blank
  -- `Covers` goes along, since only records of the schema have equations
  induction hw with
  | @record r w _ ih =>
    have hr : names r.name = s.productionTexts chars names root (.object r) := h (.object r) hx
    rw [shapeTexts, hr]
    exact Language.append_mem_mul (cons_mem_mul (ih trivial)) rfl
  | noProperties => rfl
  | properties _ _ ihp ihs => exact Language.append_mem_mul (ihp trivial) (ihs trivial)
  | noOthers => rfl
  | others _ _ ihp ihs =>
    exact Language.append_mem_mul (cons_mem_mul (ihp trivial)) (ihs trivial)
  | property hu hv _ ih =>
    rw [shapeTexts, propertyTexts, hblank]
    exact Language.append_mem_mul (Language.append_mem_mul (Language.append_mem_mul hu rfl) hv)
      (ih trivial)
  | type ht hread _ ih => exact ⟨_, ht, _, hread, ih (has_of_reading? hread)⟩
  | @builtin b w hb =>
    have hbuiltin : names b.name = b.texts chars := h.builtin_eq b
    rwa [shapeTexts, Reading.production, Production.name, hbuiltin]
  | value hm hv =>
    rw [shapeTexts, Reading.production, h (.values _) hx]
    exact ⟨_, hm, _, hv, rfl⟩
  | object _ ih => exact ih hx
  | emptyArray =>
    rw [shapeTexts, Reading.production, h (.list _) hx]
    exact .inl rfl
  | array hu _ _ ihr ihs =>
    rw [shapeTexts, Reading.production, h (.list _) hx, productionTexts, hblank]
    exact .inr (Language.append_mem_mul (Language.append_mem_mul (Language.append_mem_mul
      (cons_mem_mul hu) (ihr hx)) (ihs hx)) rfl)
  | noItems => exact Language.nil_mem_kstar _
  | items hu _ _ ihr ihs => exact mem_itemsTexts_cons (hblank.ge hu) (ihr hx) (ihs hx)

/-! ## The texts that conform solve the equations -/

/-- The texts that a production stands for. -/
def standing (s : Schema) (chars : Assignment) (root : String) : Production → Language Char
  | .start => {w | ∃ r ∈ s.records, r.name = root ∧ Conforms s chars (.record r) w}
  | .object r => s.conforming chars (.record r)
  | .list r => s.conforming chars (.reading (.array r))
  | .values e => s.conforming chars (.reading (.enumeration e))
  | .builtin b => b.texts chars

def meaning (s : Schema) (chars : Assignment) (root name : String) : Language Char :=
  {w | ∃ p, s.Has p ∧ p.name = name ∧ w ∈ s.standing chars root p}

section Upper

variable {root : String} (h : ∀ p, s.Has p → names p.name = s.standing chars root p)
include h

theorem typeTexts_le (t : TypeExpr) : s.typeTexts names t ≤ s.conforming chars (.type t) := by
  rintro w ⟨spelling, ht, x, hread, hw⟩
  rw [h _ (has_of_reading? hread)] at hw
  refine .type ht hread ?_
  cases x with
  | builtin b => exact .builtin hw
  | enumeration e => exact hw
  | record r => exact .object hw
  | array r => exact hw

theorem propertyTexts_le (p : Property) :
    s.propertyTexts names p ≤ s.conforming chars (.property p) := by
  have hblank : names Builtin.blank.name = Builtin.blanks chars := h (.builtin .blank) trivial
  rintro w ⟨_, ⟨_, ⟨u, hu, _, rfl, rfl⟩, v, hv, rfl⟩, w, hw, rfl⟩
  exact .property (hblank.le hu) (hblank.le hv) (typeTexts_le h p.type hw)

theorem othersTexts_le (ps : List Property) :
    s.othersTexts names ps ≤ s.conforming chars (.others ps) := by
  induction ps with
  | nil =>
    rintro w rfl
    exact .noOthers
  | cons p ps ih =>
    rintro w ⟨_, ⟨_, rfl, v, hv, rfl⟩, w, hw, rfl⟩
    exact .others (propertyTexts_le h p hv) (ih hw)

theorem propertiesTexts_le (ps : List Property) :
    s.propertiesTexts names ps ≤ s.conforming chars (.properties ps) := by
  cases ps with
  | nil =>
    rintro w rfl
    exact .noProperties
  | cons p ps =>
    rintro w ⟨v, hv, w, hw, rfl⟩
    exact .properties (propertyTexts_le h p hv) (othersTexts_le h ps hw)

theorem itemsTexts_le {r : Record} (hr : r ∈ s.records) :
    itemsTexts names r ≤ s.conforming chars (.items r) := by
  have hblank : names Builtin.blank.name = Builtin.blanks chars := h (.builtin .blank) trivial
  have hobject : names r.name = s.conforming chars (.record r) := h (.object r) hr
  rintro w ⟨parts, rfl, hparts⟩
  induction parts with
  | nil => exact .noItems
  | cons part parts ih =>
    obtain ⟨_, ⟨_, rfl, u, hu, rfl⟩, v, hv, rfl⟩ := hparts part List.mem_cons_self
    have hrest := ih fun y hy => hparts y (List.mem_cons_of_mem _ hy)
    exact .items (hblank.le hu) (hobject.le hv) hrest

theorem productionTexts_le (hroot : root ∈ s.recordNames) {p : Production} (hp : s.Has p) :
    s.productionTexts chars names root p ≤ s.standing chars root p := by
  have hb (b : Builtin) : names b.name = b.texts chars := h (.builtin b) trivial
  cases p with
  | start =>
    obtain ⟨r, hr, rfl⟩ := List.mem_map.mp hroot
    intro w hw
    have hobject : names r.name = s.conforming chars (.record r) := h (.object r) hr
    exact ⟨r, hr, rfl, hobject.le hw⟩
  | object r =>
    rintro w ⟨_, ⟨_, rfl, w, hw, rfl⟩, _, rfl, rfl⟩
    exact .record (propertiesTexts_le h r.properties hw)
  | list r =>
    have hobject : names r.name = s.conforming chars (.record r) := h (.object r) hp
    rintro w (rfl | ⟨_, ⟨_, ⟨_, ⟨_, rfl, u, hu, rfl⟩, v, hv, rfl⟩, w, hw, rfl⟩, _, rfl, rfl⟩)
    · exact .emptyArray
    · exact .array ((hb .blank).le hu) (hobject.le hv) (itemsTexts_le h hp hw)
  | values e =>
    rintro w ⟨m, hm, v, hv, rfl⟩
    exact .value hm hv
  | builtin b =>
    cases b with
    | stringList => exact (by rw [productionTexts, hb, hb]; rfl : _ = _).le
    | numberList => exact (by rw [productionTexts, hb, hb]; rfl : _ = _).le
    | _ => exact le_rfl

end Upper

/-! ## The language of a compiled grammar -/

namespace Compiled

variable {root : String} {g : Grammar} (h : s.Compiled root g)
include h

theorem language_solves (chars : Assignment) : s.Solves chars root (g.language chars) := by
  intro p hp
  obtain ⟨e, he, hy⟩ := h.exists_element hp
  rw [← language_of_yields hy, ← name_of_yields hy]
  refine le_antisymm ?_ (Grammar.language_element_le chars he)
  intro w hw
  -- another element of this name would be the element of the same production
  obtain ⟨e', he', hname, hw'⟩ := (Grammar.mem_language chars).mp hw
  obtain ⟨q, hq, hy'⟩ := h.exists_production he'
  have hpq : q = p := by
    apply h.eq_of_name_eq hq hp
    rw [← name_of_yields hy', hname, name_of_yields hy]
  rw [language_of_yields hy', hpq, ← language_of_yields hy] at hw'
  exact hw'

theorem meaning_name (chars : Assignment) {p : Production} (hp : s.Has p) :
    s.meaning chars root p.name = s.standing chars root p := by
  ext w
  constructor
  · rintro ⟨q, hq, hname, hw⟩
    rwa [h.eq_of_name_eq hq hp hname] at hw
  · exact fun hw => ⟨p, hp, rfl, hw⟩

theorem language_le_meaning (chars : Assignment) : g.language chars ≤ s.meaning chars root := by
  refine Grammar.language_le chars fun e he => ?_
  obtain ⟨p, hp, hy⟩ := h.exists_production he
  rw [language_of_yields hy, name_of_yields hy, h.meaning_name chars hp]
  exact productionTexts_le (fun _ hq => h.meaning_name chars hq) h.root_mem hp

/-- The language of the start production is what conforms to the root record. -/
theorem language_root (chars : Assignment) : ∃ r ∈ s.records, r.name = root ∧
    g.language chars Grammar.rootName = s.conforming chars (.record r) := by
  obtain ⟨r, hr, rfl⟩ := List.mem_map.mp h.root_mem
  refine ⟨r, hr, rfl, ?_⟩
  have hstart : g.language chars Grammar.rootName = g.language chars r.name :=
    h.language_solves chars .start trivial
  rw [hstart]
  apply le_antisymm
  · have hle := h.language_le_meaning chars r.name
    have hr' := h.meaning_name chars (p := .object r) hr
    exact hle.trans hr'.le
  · exact fun w hw => mem_shapeTexts_of_conforms (h.language_solves chars) hw hr

end Compiled

end Schema

end SchemaGrammar
