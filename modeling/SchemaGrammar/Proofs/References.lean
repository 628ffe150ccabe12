import SchemaGrammar.Proofs.Readings

/-!
# References of a compiled grammar

`Production.Uses` says of the declarations which names an element refers to. Every such name is that
of a production of the schema, and a list element is used only where a property has a spelling that
stands for an array of its record.
-/
namespace SchemaGrammar

namespace Rule

/-- A rule is within another if it is nested in it at any depth, or is the same. -/
inductive Within (x : Rule) : Rule → Prop
  | self : Within x x
  | sequence {rule rules} : rule ∈ rules → Within x rule → Within x (.sequence rules)
  | group {rule rules repeats} : rule ∈ rules → Within x rule → Within x (.group rules repeats)
  | first {first second others} : Within x first → Within x (.choice first second others)
  | second {first second others} : Within x second → Within x (.choice first second others)
  | other {first second others rule} : rule ∈ others → Within x rule →
      Within x (.choice first second others)

theorem mem_references_of_within {name : String} {rule : Rule}
    (h : Within (.reference name) rule) : name ∈ rule.references := by
  induction h with
  | self => simp [references]
  | sequence hr _ ih | group hr _ ih =>
    rw [references, referencesOf_eq_flatMap]
    exact List.mem_flatMap.mpr ⟨_, hr, ih⟩
  | first _ ih => simp [references, ih]
  | second _ ih => simp [references, ih]
  | other hr _ ih =>
    rw [references, referencesOf_eq_flatMap]
    exact List.mem_append.mpr (.inr (List.mem_flatMap.mpr ⟨_, hr, ih⟩))

/-! ### Where a pattern can stand -/

variable {pattern : String}

@[simp] theorem within_sequence {rules : List Rule} :
    (charClass pattern).Within (.sequence rules) ↔
      ∃ rule ∈ rules, (charClass pattern).Within rule := by
  constructor
  · rintro (- | ⟨hrule, h⟩)
    exact ⟨_, hrule, h⟩
  · rintro ⟨rule, hrule, h⟩
    exact .sequence hrule h

@[simp] theorem within_group {rules : List Rule} {repeats : Bool} :
    (charClass pattern).Within (.group rules repeats) ↔
      ∃ rule ∈ rules, (charClass pattern).Within rule := by
  constructor
  · rintro (- | - | ⟨hrule, h⟩)
    exact ⟨_, hrule, h⟩
  · rintro ⟨rule, hrule, h⟩
    exact .group hrule h

@[simp] theorem not_within_literal {text : String} :
    ¬ (charClass pattern).Within (.literal text) := nofun

@[simp] theorem not_within_reference {name : String} :
    ¬ (charClass pattern).Within (.reference name) := nofun

@[simp] theorem within_choice {first second : Rule} {others : List Rule} :
    (charClass pattern).Within (.choice first second others) ↔
      (charClass pattern).Within first ∨ (charClass pattern).Within second ∨
        ∃ rule ∈ others, (charClass pattern).Within rule := by
  constructor
  · rintro (- | - | - | h | h | ⟨hrule, h⟩)
    · exact .inl h
    · exact .inr (.inl h)
    · exact .inr (.inr ⟨_, hrule, h⟩)
  · rintro (h | h | ⟨rule, hrule, h⟩)
    · exact .first h
    · exact .second h
    · exact .other hrule h

@[simp] theorem within_charClass {pattern' : String} :
    (charClass pattern).Within (.charClass pattern') ↔ pattern = pattern' := by
  constructor
  · intro h
    cases h
    rfl
  · rintro rfl
    exact .self

end Rule

theorem SlotType.mem_references_rule {t : SlotType} {name : String} :
    name ∈ t.rule.references ↔ ∃ i ∈ t.items, name = i.name := by
  cases t with
  | item i => simp [SlotType.rule, ItemType.rule_eq, Rule.references, items]
  | union first second others =>
    simp [SlotType.rule, ItemType.rule_eq, Rule.references, items, List.flatMap_map]

namespace Production

def Uses (s : Schema) (root name : String) : Production → Prop
  | start => name = root
  | object r => ∃ p ∈ r.properties, name = Builtin.blank.name ∨
      ∃ spelling ∈ p.type.spellings, ∃ x, s.reading? spelling = some x ∧ name = x.production.name
  | list r => name = Builtin.blank.name ∨ name = r.name
  | values _ => False
  | builtin .stringList => name = Builtin.blank.name ∨ name = Builtin.string.name
  | builtin .numberList => name = Builtin.blank.name ∨ name = Builtin.number.name
  | builtin _ => False

end Production

namespace Schema

variable {s : Schema} {root : String} {g : Grammar}

theorem mem_references_of_slot? {t : TypeExpr} {slot : SlotType}
    (h : s.scope.slot? t = .ok slot) {name : String} :
    name ∈ slot.rule.references ↔
      ∃ spelling ∈ t.spellings, ∃ x, s.reading? spelling = some x ∧ name = x.production.name := by
  rw [SlotType.mem_references_rule]
  constructor
  · rintro ⟨i, hi, rfl⟩
    obtain ⟨spelling, hspelling, x, hx, rfl⟩ := (mem_items_of_slot? h).mp hi
    exact ⟨spelling, hspelling, x, hx, x.name_item⟩
  · rintro ⟨spelling, hspelling, x, hx, rfl⟩
    exact ⟨x.item, (mem_items_of_slot? h).mpr ⟨spelling, hspelling, x, hx, rfl⟩, x.name_item.symm⟩

theorem mem_references_propertyRules {record : String} {p : Property} {m : Property × Rule}
    (h : Record.resolveProperty s.scope record p = .ok m) {name : String} :
    name ∈ (Record.propertyRules m.1 m.2).flatMap Rule.references ↔ name = Builtin.blank.name ∨
      ∃ spelling ∈ p.type.spellings, ∃ x,
        s.reading? spelling = some x ∧ name = x.production.name := by
  unfold Record.resolveProperty at h
  cases ht : s.scope.slot? p.type with
  | error spelling => simp [ht] at h
  | ok slot =>
    simp only [ht, Except.ok.injEq] at h
    subst h
    simp [Record.propertyRules, Builtin.reference, Rule.references, mem_references_of_slot? ht]

theorem flatMap_references_memberRules {members : List (Property × Rule)} :
    (Record.memberRules members).flatMap Rule.references =
      members.flatMap fun m => (Record.propertyRules m.1 m.2).flatMap Rule.references := by
  cases members with
  | nil => rfl
  | cons m ms =>
    simp only [Record.memberRules, List.flatMap_append, List.flatMap_assoc, List.flatMap_cons,
      Rule.references, List.nil_append]

theorem mem_references_memberRules {record : String} {ps : List Property}
    {members : List (Property × Rule)}
    (h : List.Forall₂ (fun p m => Record.resolveProperty s.scope record p = .ok m) ps members)
    {name : String} :
    name ∈ (Record.memberRules members).flatMap Rule.references ↔
      ∃ p ∈ ps, name = Builtin.blank.name ∨
        ∃ spelling ∈ p.type.spellings, ∃ x,
          s.reading? spelling = some x ∧ name = x.production.name := by
  rw [flatMap_references_memberRules]
  induction h with
  | nil => simp
  | cons hp _ ih =>
    rw [List.flatMap_cons, List.mem_append, mem_references_propertyRules hp, ih]
    simp only [List.mem_cons, exists_eq_or_imp]

theorem mem_references_object {r : Record} {members : List (Property × Rule)}
    (h : List.Forall₂ (fun p m => Record.resolveProperty s.scope r.name p = .ok m)
      r.properties members) {name : String} :
    name ∈ (Record.objectElement r.name members).references ↔
      (Production.object r).Uses s root name := by
  have hobject : name ∈ (Record.objectElement r.name members).references ↔
      name ∈ (Record.memberRules members).flatMap Rule.references := by
    simp [Element.references, Element.alternatives, Record.objectElement, Rule.references]
  rw [hobject]
  exact mem_references_memberRules h

theorem references_values {e : Enumeration} {el : Element} (h : e.element = .ok el) :
    el.references = [] := by
  rw [Element.references, List.flatMap_eq_nil_iff]
  intro rule hrule
  obtain ⟨-, hall⟩ := Enumeration.element_eq_ok_iff.mp h
  obtain ⟨m, -, hm⟩ := exists_of_forall₂_of_mem hall hrule
  obtain ⟨v, -, rfl⟩ := Enumeration.alternative_eq_ok_iff.mp hm
  rfl

theorem mem_references_of_yields {p : Production} {e : Element} (h : p.Yields s root e)
    {name : String} : name ∈ e.references ↔ p.Uses s root name := by
  cases p with
  | start =>
    subst h
    simp [Element.references, Element.alternatives, rootElement, Rule.references, Production.Uses]
  | object r =>
    obtain ⟨-, -, members, hm, rfl⟩ := h
    exact mem_references_object hm
  | list r =>
    subst h
    simp only [Element.references, Element.alternatives, Record.listElement, Rule.references,
      Rule.star, Builtin.reference, Rule.referencesOf, List.flatMap_cons, List.flatMap_nil,
      Production.Uses, List.mem_append, List.mem_cons, List.not_mem_nil]
    tauto
  | values en => simp [references_values h, Production.Uses]
  | builtin b =>
    subst h
    cases b <;>
      simp only [Element.references, Element.alternatives, Builtin.element, Builtin.emptyList,
        Builtin.listOf, Rule.references, Rule.star, Builtin.reference, Rule.referencesOf,
        List.flatMap_cons, List.flatMap_nil, Production.Uses, List.mem_append, List.mem_cons,
        List.not_mem_nil] <;>
      tauto

/-- Every name that a production uses is that of a production. -/
theorem exists_of_uses (hroot : root ∈ s.recordNames) {p : Production} (hp : s.Has p)
    {name : String} (h : p.Uses s root name) : ∃ q, s.Has q ∧ q.name = name := by
  cases p with
  | start =>
    obtain ⟨r, hr, rfl⟩ := List.mem_map.mp hroot
    exact ⟨.object r, hr, h.symm⟩
  | object r =>
    obtain ⟨p, -, rfl | ⟨spelling, -, x, hx, rfl⟩⟩ := h
    · exact ⟨.builtin .blank, trivial, rfl⟩
    · exact ⟨x.production, has_of_reading? hx, rfl⟩
  | list r =>
    obtain rfl | rfl := h
    · exact ⟨.builtin .blank, trivial, rfl⟩
    · exact ⟨.object r, hp, rfl⟩
  | values e => exact h.elim
  | builtin b =>
    cases b with
    | stringList =>
      obtain rfl | rfl := h
      · exact ⟨.builtin .blank, trivial, rfl⟩
      · exact ⟨.builtin .string, trivial, rfl⟩
    | numberList =>
      obtain rfl | rfl := h
      · exact ⟨.builtin .blank, trivial, rfl⟩
      · exact ⟨.builtin .number, trivial, rfl⟩
    | _ => exact h.elim

end Schema

end SchemaGrammar
