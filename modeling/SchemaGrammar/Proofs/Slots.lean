import SchemaGrammar.Document.Rules
import SchemaGrammar.Proofs.DeclarationOrder

/-!
# The slots of properties

A type stands for the item types of its spellings, each once, in the order in which they first
occur: for the item type itself if there is only one, and for a choice otherwise. Names of elements
are unique, so different item types refer to different elements, and no choice of a grammar offers
one element twice.
-/
namespace SchemaGrammar

/-- Whether `members` are the members of a list, each once, in the order of their first places. -/
structure FirstOccurrences {α : Type} [DecidableEq α] (as members : List α) : Prop where
  mem_iff : ∀ a, a ∈ members ↔ a ∈ as
  pairwise : members.Pairwise fun a b => as.idxOf a < as.idxOf b

namespace FirstOccurrences

variable {α : Type} [DecidableEq α] {as members : List α}

theorem nodup (h : FirstOccurrences as members) : members.Nodup := by
  refine h.pairwise.imp fun hlt heq => ?_
  rw [heq] at hlt
  exact lt_irrefl _ hlt

theorem eraseDups (as : List α) : FirstOccurrences as as.eraseDups := by
  refine ⟨fun a => List.mem_eraseDups, ?_⟩
  -- a member that is new at the end of a list has its place after all others
  induction as using List.reverseRecOn with
  | nil => simp
  | append_singleton as a ih =>
    have hold : as.eraseDups.Pairwise fun b c => (as ++ [a]).idxOf b < (as ++ [a]).idxOf c := by
      refine ih.imp_of_mem fun hb hc hlt => ?_
      rwa [List.idxOf_append_of_mem (List.mem_eraseDups.mp hb),
        List.idxOf_append_of_mem (List.mem_eraseDups.mp hc)]
    rw [List.eraseDups_append]
    by_cases ha : a ∈ as
    · simpa [List.removeAll, ha] using hold
    · have hnew : [a].removeAll as = [a] := by simp [List.removeAll, ha]
      have hsingle : [a].eraseDups = [a] := rfl
      rw [hnew, hsingle, List.pairwise_append]
      refine ⟨hold, List.pairwise_singleton _ _, fun b hb c hc => ?_⟩
      have hb : b ∈ as := List.mem_eraseDups.mp hb
      rw [List.mem_singleton.mp hc, List.idxOf_append_of_mem hb,
        List.idxOf_append_of_notMem ha]
      exact (List.idxOf_lt_length_of_mem hb).trans_le (Nat.le_add_right _ _)

theorem cons (h : FirstOccurrences as members) (a : α) :
    FirstOccurrences (a :: as) (a :: members.filter (· ≠ a)) := by
  have hne : ∀ b ∈ members.filter (· ≠ a), b ≠ a := by simp
  constructor
  · intro b
    by_cases hb : b = a <;> simp [hb, h.mem_iff]
  · refine List.pairwise_cons.mpr ⟨fun b hb => ?_, ?_⟩
    · rw [List.idxOf_cons_self, List.idxOf_cons_ne _ (hne b hb).symm]
      exact Nat.succ_pos _
    · refine (h.pairwise.sublist List.filter_sublist).imp_of_mem fun hb hc hlt => ?_
      rw [List.idxOf_cons_ne _ (hne _ hb).symm, List.idxOf_cons_ne _ (hne _ hc).symm]
      exact Nat.succ_lt_succ hlt

end FirstOccurrences

def SlotType.ofItems (first : ItemType) : List ItemType → SlotType
  | [] => .item first
  | second :: others => .union first second others

@[simp] theorem SlotType.items_ofItems (first : ItemType) (others : List ItemType) :
    (ofItems first others).items = first :: others := by
  cases others <;> rfl

namespace Scope

variable {scope : Scope}

theorem slot_eq_ofItems (first : ItemType) (others : List ItemType) :
    slot first others = .ofItems first (others.eraseDups.filter (· ≠ first)) := by
  unfold slot
  cases others.eraseDups.filter (· ≠ first) <;> rfl

theorem slot?_of_items {t : TypeExpr} {types : List ItemType}
    (h : List.Forall₂ (fun spelling type => scope.item? spelling = some type) t.spellings types) :
    ∃ first others, FirstOccurrences types (first :: others) ∧
      scope.slot? t = .ok (.ofItems first others) := by
  obtain ⟨first, others, hfirst, hothers, rfl⟩ := List.forall₂_cons_left_iff.mp h
  refine ⟨first, _, (FirstOccurrences.eraseDups others).cons first, ?_⟩
  rw [slot?, hfirst, items_eq_ok_iff.mpr hothers, ← slot_eq_ofItems]
  rfl

theorem exists_types_iff_claims {spellings : List String} :
    (∃ types, List.Forall₂ (fun spelling type => scope.item? spelling = some type)
      spellings types) ↔ ∀ spelling ∈ spellings, scope.Claims spelling := by
  have hitem (spelling : String) : (∃ type, scope.item? spelling = some type) ↔
      scope.Claims spelling := by
    rw [← Option.ne_none_iff_exists', ne_eq, item?_eq_none_iff, not_not]
  constructor
  · rintro ⟨types, htypes⟩ spelling hspelling
    obtain ⟨type, -, htype⟩ := exists_of_forall₂_of_mem htypes.flip hspelling
    exact (hitem spelling).mp ⟨type, htype⟩
  · intro hclaims
    exact exists_forall₂ fun spelling hspelling => (hitem spelling).mpr (hclaims spelling hspelling)

/-- No item type is twice in a slot. -/
theorem nodup_items_of_slot? {t : TypeExpr} {type : SlotType} (h : scope.slot? t = .ok type) :
    type.items.Nodup := by
  have hclaims : ∀ spelling ∈ t.spellings, scope.Claims spelling := by
    have hne : ∀ spelling, scope.slot? t ≠ .error spelling := by simp [h]
    simpa [slot?_eq_error_iff, forall_not_firstFault] using hne
  obtain ⟨types, htypes⟩ := exists_types_iff_claims.mpr hclaims
  obtain ⟨first, others, hfirst, hslot⟩ := slot?_of_items htypes
  rw [hslot, Except.ok.injEq] at h
  rw [← h, SlotType.items_ofItems]
  exact hfirst.nodup

end Scope

/-- Whether a rule is a reference, or a choice of references to different names. -/
inductive Rule.IsSlot : Rule → Prop
  | reference (name : String) : IsSlot (.reference name)
  | choice {first second others} : (first :: second :: others).Nodup →
      IsSlot (.choice (.reference first) (.reference second) (others.map .reference))

theorem SlotType.isSlot_rule {type : SlotType} (h : (type.items.map ItemType.name).Nodup) :
    type.rule.IsSlot := by
  cases type with
  | item i =>
    rw [rule, i.rule_eq]
    exact .reference _
  | union first second others =>
    have hothers : others.map ItemType.rule = (others.map ItemType.name).map .reference := by
      rw [List.map_map]
      exact List.map_congr_left fun i _ => i.rule_eq
    rw [rule, first.rule_eq, second.rule_eq, hothers]
    exact .choice h

namespace Schema

variable {s : Schema} {root : String} {g : Grammar}

/-- Item types of one name are the same. -/
theorem Compiled.item_eq_of_name_eq (h : s.Compiled root g) {spelling spelling' : String}
    {x y : Reading} (hx : s.reading? spelling = some x) (hy : s.reading? spelling' = some y)
    (hname : x.item.name = y.item.name) : x.item = y.item := by
  rw [x.name_item, y.name_item] at hname
  have hproduction := h.eq_of_name_eq (has_of_reading? hx) (has_of_reading? hy) hname
  cases x <;> cases y <;> cases hproduction <;> rfl

/-- Different item types of a slot have different names. -/
theorem Compiled.nodup_names (h : s.Compiled root g) {t : TypeExpr} {type : SlotType}
    (ht : s.scope.slot? t = .ok type) (hnodup : type.items.Nodup) :
    (type.items.map ItemType.name).Nodup := by
  refine hnodup.map_on fun i hi j hj hname => ?_
  obtain ⟨_, -, x, hx, rfl⟩ := (mem_items_of_slot? ht).mp hi
  obtain ⟨_, -, y, hy, rfl⟩ := (mem_items_of_slot? ht).mp hj
  exact h.item_eq_of_name_eq hx hy hname

theorem Compiled.isSlot_rule (h : s.Compiled root g) {t : TypeExpr} {type : SlotType}
    (ht : s.scope.slot? t = .ok type) : type.rule.IsSlot :=
  SlotType.isSlot_rule (h.nodup_names ht (Scope.nodup_items_of_slot? ht))

/-- The object element of a record is found by its name, with a slot for each property. -/
theorem Compiled.find?_object (h : s.Compiled root g) {r : Record} (hr : r ∈ s.records)
    (lists : ListElements) : ∃ types,
    List.Forall₂ (fun p type => s.scope.slot? p.type = .ok type) r.properties types ∧
    (s.withLists lists g).find? r.name = some (Record.objectElement r.name
      (List.zipWith (fun p type => (p, type.rule)) r.properties types)) := by
  obtain ⟨e, he, hyields⟩ := h.exists_element (p := .object r) hr
  have hkept : e ∈ (s.withLists lists g).elements := by
    refine h.mem_withLists.mpr ⟨he, fun _ r' hr' heq => ?_⟩
    have hname : r.name = listName r'.name := by
      rw [← Production.name, ← name_of_yields hyields, heq]
      rfl
    cases h.eq_list_of_name_eq (p := .object r) hr hr' hname
  have hnodup : (s.withLists lists g).names.Nodup :=
    ((sublist_withLists lists).map Element.name).nodup h.names_nodup
  obtain ⟨-, -, members, hmembers, rfl⟩ := hyields
  obtain ⟨types, htypes, rfl⟩ := Record.exists_types hmembers
  exact ⟨types, htypes, (Grammar.find?_eq_some_iff hnodup).mpr ⟨hkept, rfl⟩⟩

end Schema

/-- A type resolves exactly if each of its spellings is claimed, and then to the item types of the
spellings without repeats; in a grammar no slot offers the same element twice. -/
theorem slots_minimal :
    (∀ (scope : Scope) (record : String) (p : Property),
      (∀ e, Record.resolveProperty scope record p = .error e ↔
        ∃ before spelling after, p.type.spellings = before ++ spelling :: after ∧
          (∀ x ∈ before, scope.Claims x) ∧ ¬ scope.Claims spelling ∧
          e = .unresolvedType record p.name spelling p.location) ∧
      ((∀ spelling ∈ p.type.spellings, scope.Claims spelling) → ∃ types first others,
        List.Forall₂ (fun spelling type => scope.item? spelling = some type)
          p.type.spellings types ∧
        FirstOccurrences types (first :: others) ∧
        scope.slot? p.type = .ok (.ofItems first others) ∧
        Record.resolveProperty scope record p = .ok (p, (SlotType.ofItems first others).rule) ∧
        (others ≠ [] → Document.choiceOf ((first :: others).map ItemType.rule) =
          .valid (SlotType.ofItems first others).rule))) ∧
    ∀ (s : Schema) (root : String) (lists : ListElements) (g : Grammar),
      s.grammar root lists = .ok g → ∀ r ∈ s.records, ∃ types,
        List.Forall₂ (fun p type => s.scope.slot? p.type = .ok type) r.properties types ∧
        g.find? r.name = some (Record.objectElement r.name
          (List.zipWith (fun p type => (p, type.rule)) r.properties types)) ∧
        ∀ type ∈ types, type.rule.IsSlot := by
  refine ⟨fun scope record p => ⟨fun e => ?_, fun hclaims => ?_⟩, ?_⟩
  · rw [Record.resolveProperty_eq_error_iff, firstFault_and_eq_iff]
    simp only [not_not]
  · obtain ⟨types, htypes⟩ := Scope.exists_types_iff_claims.mpr hclaims
    obtain ⟨first, others, hfirst, hslot⟩ := Scope.slot?_of_items htypes
    refine ⟨types, first, others, htypes, hfirst, hslot, ?_, fun hothers => ?_⟩
    · rw [Record.resolveProperty, hslot]
    · cases others with
      | nil => exact absurd rfl hothers
      | cons second others => rfl
  · intro s root lists g hg r hr
    obtain ⟨g₀, hg₀, rfl⟩ := Schema.exists_compiled hg
    obtain ⟨types, htypes, hfind⟩ := hg₀.find?_object hr lists
    refine ⟨types, htypes, hfind, fun type htype => ?_⟩
    obtain ⟨p, -, hp⟩ := exists_of_forall₂_of_mem htypes htype
    exact hg₀.isSlot_rule hp

def repeatedSpellings : Property where
  name := "x"
  type := ⟨"string[]", ["Array<string>", "Node[]", "stringlist"]⟩
  location := none

theorem slots_minimal_tree :
    (FirstOccurrences [.element "stringlist", .element "stringlist", .array "Node",
        .element "stringlist"] [ItemType.element "stringlist", .array "Node"] ∧
      Schema.tree.scope.slot? repeatedSpellings.type =
        .ok (.union (.element "stringlist") (.array "Node") [])) ∧
    ∃ g, Schema.tree.grammar "Node" .all = .ok g ∧ ∃ types : List SlotType, types.length = 2 ∧
      g.find? "Node" = some (Record.objectElement "Node" (List.zipWith
        (fun p type => (p, type.rule)) Schema.node.properties types)) ∧
      ∀ type ∈ types, type.rule.IsSlot := by
  obtain ⟨hresolve, hgrammar⟩ := slots_minimal
  constructor
  · have hclaims : ∀ spelling ∈ repeatedSpellings.type.spellings,
        Schema.tree.scope.Claims spelling := by
      simp only [repeatedSpellings, TypeExpr.spellings, List.forall_mem_cons, List.not_mem_nil,
        false_implies, implies_true, and_true]
      exact ⟨⟨.scalarList, _, rfl⟩, ⟨.scalarList, _, rfl⟩, ⟨.recordArray, _, rfl⟩,
        ⟨.builtin, _, rfl⟩⟩
    obtain ⟨types, first, others, htypes, hfirst, hslot, -⟩ :=
      (hresolve Schema.tree.scope "A" repeatedSpellings).2 hclaims
    have hitems := Except.ok.inj ((Scope.items_eq_ok_iff.mpr htypes).symm.trans rfl)
    have hchoice : SlotType.ofItems first others =
        .union (.element "stringlist") (.array "Node") [] := Except.ok.inj (hslot.symm.trans rfl)
    have hmembers := congrArg SlotType.items hchoice
    rw [SlotType.items_ofItems] at hmembers
    rw [hitems, hmembers] at hfirst
    exact ⟨hfirst, hslot.trans (congrArg _ hchoice)⟩
  · have htree : Schema.tree.grammar "Node" .all = .ok _ := rfl
    obtain ⟨types, htypes, hfind, hslots⟩ := hgrammar _ _ _ _ htree Schema.node (by decide)
    exact ⟨_, htree, types, htypes.length_eq.symm, hfind, hslots⟩

end SchemaGrammar
