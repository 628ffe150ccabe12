import SchemaGrammar.Proofs.Conformance
import SchemaGrammar.Proofs.Productions

/-!
# Readings and resolution

The ordered table of resolution steps finds for each spelling the item type of what the spelling
stands for, and the slot of a type holds what its spellings stand for, without repeats. Whatever a
spelling stands for has a production in the schema.
-/
namespace SchemaGrammar

namespace Reading

def production : Reading → Production
  | builtin b => .builtin b
  | enumeration e => .values e
  | record r => .object r
  | array r => .list r

def item : Reading → ItemType
  | builtin b => .element b.name
  | enumeration e => .element e.name
  | record r => .element r.name
  | array r => .array r.name

end Reading

def ItemType.name : ItemType → String
  | element name => name
  | array record => listName record

@[simp] theorem Reading.name_item (x : Reading) : x.item.name = x.production.name := by
  cases x <;> rfl

theorem ItemType.rule_eq (i : ItemType) : i.rule = .reference i.name := by
  cases i <;> rfl

theorem findSome?_cons_eq_or {α β : Type} (f : α → Option β) (a : α) (as : List α) :
    (a :: as).findSome? f = (f a).or (as.findSome? f) := by
  rw [List.findSome?_cons]
  cases f a <;> rfl

/-- Looking up a name and keeping only the name of what is found. -/
theorem map_find?_name {α β : Type} (name : α → String) (f : α → β) (g : String → β)
    (hf : ∀ x, f x = g (name x)) (word : String) (xs : List α) :
    (xs.find? fun x => name x = word).map f =
      if word ∈ xs.map name then some (g word) else none := by
  induction xs with
  | nil => simp
  | cons x xs ih =>
    by_cases hx : name x = word
    · simp [hx, hf]
    · simp [hx, Ne.symm hx, ih]

namespace Schema

/-- The steps of the table, asked in order, find the item type of the reading. -/
theorem item?_eq_map_reading? (s : Schema) (spelling : String) :
    s.scope.item? spelling = (s.reading? spelling).map Reading.item := by
  simp only [Scope.item?, ResolutionStep.order, findSome?_cons_eq_or, List.findSome?_nil,
    ResolutionStep.claim, scope, Builtin.names, recordNames, enumerationNames, reading?,
    Option.orElse_eq_orElse, Option.orElse_eq_or, Option.map_or, Option.or_none, Option.map_map,
    Option.map_bind, Function.comp_def,
    map_find?_name Builtin.name (fun b => (Reading.builtin b).item) .element fun _ => rfl,
    map_find?_name Enumeration.name (fun e => (Reading.enumeration e).item) .element fun _ => rfl,
    map_find?_name Record.name (fun r => (Reading.record r).item) .element fun _ => rfl,
    map_find?_name Record.name (fun r => (Reading.array r).item) .array fun _ => rfl]
  rfl

/-- What a spelling stands for is declared in the schema. -/
theorem has_of_reading? {s : Schema} {spelling : String} {x : Reading}
    (h : s.reading? spelling = some x) : s.Has x.production := by
  simp only [reading?, Option.orElse_eq_orElse, Option.orElse_eq_or, Option.or_eq_some_iff,
    Option.map_eq_some_iff, Option.bind_eq_some_iff] at h
  rcases h with ⟨b, -, rfl⟩ | ⟨-, ⟨b, -, rfl⟩ | ⟨-, ⟨e, he, rfl⟩ | ⟨-, ⟨r, hr, rfl⟩ |
    ⟨-, name, -, r, hr, rfl⟩⟩⟩⟩
  · trivial
  · trivial
  · exact List.mem_of_find?_eq_some he
  · exact List.mem_of_find?_eq_some hr
  · exact List.mem_of_find?_eq_some hr

end Schema

def SlotType.items : SlotType → List ItemType
  | item i => [i]
  | union first second others => first :: second :: others

namespace Scope

theorem items_eq_ok_iff {scope : Scope} {spellings : List String} {items : List ItemType} :
    scope.items spellings = .ok items ↔
      List.Forall₂ (fun spelling i => scope.item? spelling = some i) spellings items := by
  induction spellings generalizing items with
  | nil => simp [Scope.items, eq_comm]
  | cons spelling spellings ih =>
    rw [Scope.items, List.forall₂_cons_left_iff]
    cases hi : scope.item? spelling with
    | none => simp
    | some i =>
      cases his : scope.items spellings with
      | error e =>
        simp only [his, reduceCtorEq, false_iff] at ih
        simp [Except.map, ih]
      | ok is =>
        simp only [his, Except.ok.injEq] at ih
        simp only [Except.map, Except.ok.injEq, Option.some.injEq, ← ih]
        simp [eq_comm]

/-- Only repeats are dropped from a choice. -/
theorem mem_items_slot {first i : ItemType} {others : List ItemType} :
    i ∈ (slot first others).items ↔ i ∈ first :: others := by
  have hmem : i ∈ others.eraseDups.filter (· ≠ first) ↔ i ∈ others ∧ i ≠ first := by
    simp only [List.mem_filter, List.mem_eraseDups, decide_eq_true_eq]
  unfold slot
  rw [List.mem_cons]
  by_cases hi : i = first
  · split <;> simp [SlotType.items, hi]
  · split
    · next hk =>
      rw [hk] at hmem
      simpa [SlotType.items, hi] using hmem
    · next hk =>
      rw [hk] at hmem
      simpa [SlotType.items, hi] using hmem

/-- The items of a slot are what the spellings of its type stand for. -/
theorem mem_items_of_slot? {scope : Scope} {t : TypeExpr} {slot : SlotType}
    (h : scope.slot? t = .ok slot) {i : ItemType} :
    i ∈ slot.items ↔ ∃ spelling ∈ t.spellings, scope.item? spelling = some i := by
  unfold slot? at h
  cases hf : scope.item? t.first with
  | none => simp [hf] at h
  | some first =>
    cases ho : scope.items t.others with
    | error e => simp [hf, ho, Except.map] at h
    | ok others =>
      have hall : List.Forall₂ (fun spelling i => scope.item? spelling = some i) t.spellings
          (first :: others) := .cons hf (items_eq_ok_iff.mp ho)
      simp only [hf, ho, Except.map, Except.ok.injEq] at h
      rw [← h, mem_items_slot]
      exact mem_iff_of_forall₂ hall

end Scope

/-- The rules of the properties of a record come from the slots of their types. -/
theorem Record.exists_types {scope : Scope} {record : String} {ps : List Property}
    {members : List (Property × Rule)}
    (h : List.Forall₂ (fun p m => resolveProperty scope record p = .ok m) ps members) :
    ∃ types, List.Forall₂ (fun p type => scope.slot? p.type = .ok type) ps types ∧
      members = List.zipWith (fun p type => (p, type.rule)) ps types := by
  induction h with
  | nil => exact ⟨[], .nil, rfl⟩
  | @cons p m ps members hm _ ih =>
    obtain ⟨types, htypes, rfl⟩ := ih
    cases hp : scope.slot? p.type with
    | error spelling => simp [resolveProperty, hp] at hm
    | ok type =>
      rw [resolveProperty, hp, Except.ok.injEq] at hm
      subst hm
      exact ⟨type :: types, .cons hp htypes, rfl⟩

/-- The items of a slot are those of the readings of its type. -/
theorem Schema.mem_items_of_slot? {s : Schema} {t : TypeExpr} {slot : SlotType}
    (h : s.scope.slot? t = .ok slot) {i : ItemType} :
    i ∈ slot.items ↔
      ∃ spelling ∈ t.spellings, ∃ x, s.reading? spelling = some x ∧ i = x.item := by
  simp only [Scope.mem_items_of_slot? h, item?_eq_map_reading?, Option.map_eq_some_iff,
    eq_comm (a := i)]

end SchemaGrammar
