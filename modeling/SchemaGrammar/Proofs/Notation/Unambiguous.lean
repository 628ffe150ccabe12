import SchemaGrammar.Proofs.Notation.Lines

/-!
# The text of a grammar determines the grammar

Elements made from a schema are in normal form and have the built-in patterns only. So while other
grammars are determined by their text up to normal form, those of schemas are equal if their texts
are.
-/
namespace SchemaGrammar

namespace Rule

/-- A sequence of two or more rules that are no sequences is in normal form. -/
theorem normal_sequence {rules : List Rule} (hlength : 2 ≤ rules.length)
    (h : ∀ rule ∈ rules, rule.members = [rule]) : normal (.sequence rules) = .sequence rules := by
  have hmembers : rules.flatMap members = rules := by
    rw [List.flatMap_congr h]
    exact List.flatMap_singleton' rules
  rw [normal, members, membersOf_eq_flatMap, hmembers]
  obtain _ | ⟨_, _ | ⟨_, _⟩⟩ := rules
  · simp at hlength
  · simp at hlength
  · rfl

end Rule

theorem ItemType.normal_rule (i : ItemType) : i.rule.normal = i.rule := by
  cases i <;> rfl

theorem ItemType.not_within_rule (i : ItemType) {pattern : String} :
    ¬ (Rule.charClass pattern).Within i.rule := by
  cases i <;> exact Rule.not_within_reference

namespace SlotType

theorem members_rule (t : SlotType) : t.rule.members = [t.rule] := by
  cases t with
  | item i => cases i <;> rfl
  | union first second others =>
    have hothers : (others.map ItemType.rule).map Rule.normal = others.map ItemType.rule := by
      rw [List.map_map]
      exact List.map_congr_left fun i _ => i.normal_rule
    rw [rule, Rule.members, Rule.normals_eq_map, hothers]
    change [Rule.choice first.rule.normal second.rule.normal _] = _
    rw [first.normal_rule, second.normal_rule]

theorem not_within_rule (t : SlotType) {pattern : String} :
    ¬ (Rule.charClass pattern).Within t.rule := by
  cases t with
  | item i => exact i.not_within_rule
  | union first second others =>
    rintro (- | - | - | h | h | ⟨hrule, h⟩)
    · exact first.not_within_rule h
    · exact second.not_within_rule h
    · obtain ⟨i, -, rfl⟩ := List.mem_map.mp hrule
      exact i.not_within_rule h

end SlotType

/-- Between the braces of an object there are literals and the rules of slots only. -/
theorem Record.mem_memberRules {s : Schema} {record : String} {ps : List Property}
    {members : List (Property × Rule)}
    (h : List.Forall₂ (fun p m => resolveProperty s.scope record p = .ok m) ps members)
    {rule : Rule} (hrule : rule ∈ memberRules members) :
    (∃ text, rule = .literal text) ∨ ∃ t : SlotType, rule = t.rule := by
  have hslot : ∀ m ∈ members, ∃ t : SlotType, m.2 = t.rule := by
    intro m hm
    obtain ⟨p, -, hp⟩ := exists_of_forall₂_of_mem h hm
    unfold resolveProperty at hp
    cases ht : s.scope.slot? p.type with
    | error spelling => simp [ht] at hp
    | ok t =>
      rw [ht] at hp
      cases hp
      exact ⟨t, rfl⟩
  have hproperty : ∀ m ∈ members, rule ∈ propertyRules m.1 m.2 →
      (∃ text, rule = .literal text) ∨ ∃ t : SlotType, rule = t.rule := by
    intro m hm hrule
    simp only [propertyRules, List.mem_cons, List.not_mem_nil, or_false] at hrule
    obtain rfl | rfl | rfl | rfl := hrule
    · exact .inr ⟨.item (.element Builtin.blank.name), rfl⟩
    · exact .inl ⟨_, rfl⟩
    · exact .inr ⟨.item (.element Builtin.blank.name), rfl⟩
    · exact .inr (hslot m hm)
  cases members with
  | nil => cases hrule
  | cons m ms =>
    rw [memberRules, List.mem_append, List.mem_flatMap] at hrule
    obtain hrule | ⟨m', hm', hrule⟩ := hrule
    · exact hproperty m List.mem_cons_self hrule
    · obtain rfl | hrule := List.mem_cons.mp hrule
      · exact .inl ⟨_, rfl⟩
      · exact hproperty m' (List.mem_cons_of_mem _ hm') hrule

/-- An object is a sequence of literals and of the rules of slots. -/
theorem Record.exists_rules_objectElement {s : Schema} {r : Record}
    {members : List (Property × Rule)}
    (h : List.Forall₂ (fun p m => resolveProperty s.scope r.name p = .ok m) r.properties members) :
    ∃ rules, (objectElement r.name members).alternatives = [.sequence rules] ∧ 2 ≤ rules.length ∧
      ∀ rule ∈ rules, (∃ text, rule = .literal text) ∨ ∃ t : SlotType, rule = t.rule := by
  refine ⟨_, rfl, by simp, fun rule hrule => ?_⟩
  rw [List.mem_append, List.mem_cons, List.mem_singleton] at hrule
  obtain (rfl | hrule) | rfl := hrule
  · exact .inl ⟨_, rfl⟩
  · exact mem_memberRules h hrule
  · exact .inl ⟨_, rfl⟩

/-- The alternatives of an enumeration are literals. -/
theorem Enumeration.exists_literal {en : Enumeration} {e : Element} (h : en.element = .ok e)
    {rule : Rule} (hrule : rule ∈ e.alternatives) : ∃ text, rule = .literal text := by
  obtain ⟨-, hall⟩ := element_eq_ok_iff.mp h
  obtain ⟨m, -, hm⟩ := exists_of_forall₂_of_mem hall hrule
  obtain ⟨value, -, rfl⟩ := alternative_eq_ok_iff.mp hm
  exact ⟨_, rfl⟩

namespace Schema

variable {s : Schema} {root : String} {p : Production} {e : Element}

/-- The alternatives of an element made from a schema are in normal form. -/
theorem map_normal_of_yields (h : p.Yields s root e) :
    e.alternatives.map Rule.normal = e.alternatives := by
  cases p with
  | start =>
    subst h
    rfl
  | object r =>
    obtain ⟨-, -, members, hmembers, rfl⟩ := h
    obtain ⟨rules, halternatives, hlength, hrules⟩ := Record.exists_rules_objectElement hmembers
    rw [halternatives, List.map_singleton, Rule.normal_sequence hlength]
    intro rule hrule
    obtain ⟨text, rfl⟩ | ⟨t, rfl⟩ := hrules rule hrule
    · rfl
    · exact t.members_rule
  | list r =>
    subst h
    rfl
  | values en =>
    refine (List.map_congr_left fun rule hrule => ?_).trans (List.map_id _)
    obtain ⟨text, rfl⟩ := Enumeration.exists_literal h hrule
    rfl
  | builtin b =>
    subst h
    cases b <;> rfl

theorem patterns_of_yields (h : p.Yields s root e) : ∀ rule ∈ e.alternatives, ∀ pattern,
    (Rule.charClass pattern).Within rule → pattern ∈ Builtin.patterns := by
  cases p with
  | start =>
    subst h
    simp [Element.alternatives, rootElement]
  | object r =>
    obtain ⟨-, -, members, hmembers, rfl⟩ := h
    obtain ⟨rules, halternatives, -, hrules⟩ := Record.exists_rules_objectElement hmembers
    rw [halternatives]
    intro rule hrule pattern hpattern
    rw [List.mem_singleton.mp hrule, Rule.within_sequence] at hpattern
    obtain ⟨rule', hrule', hpattern⟩ := hpattern
    obtain ⟨text, rfl⟩ | ⟨t, rfl⟩ := hrules rule' hrule'
    · exact absurd hpattern Rule.not_within_literal
    · exact absurd hpattern t.not_within_rule
  | list r =>
    subst h
    simp [Element.alternatives, Record.listElement, Builtin.reference, Rule.star]
  | values en =>
    intro rule hrule pattern hpattern
    obtain ⟨text, rfl⟩ := Enumeration.exists_literal h hrule
    exact absurd hpattern Rule.not_within_literal
  | builtin b =>
    subst h
    cases b <;> simp [Element.alternatives, Builtin.element, Builtin.emptyList, Builtin.listOf,
      Builtin.reference, Rule.star, Builtin.patterns]

variable {lists : ListElements} {g : Grammar}

theorem exists_yields_of_grammar (h : s.grammar root lists = .ok g) {e : Element}
    (he : e ∈ g.elements) : ∃ p : Production, p.Yields s root e := by
  obtain ⟨g₀, hg₀, rfl⟩ := exists_compiled h
  obtain ⟨p, -, hp⟩ := hg₀.exists_production (hg₀.mem_withLists.mp he).1
  exact ⟨p, hp⟩

theorem hasBuiltinPatterns_of_grammar (h : s.grammar root lists = .ok g) :
    g.HasBuiltinPatterns := by
  intro e he
  obtain ⟨p, hp⟩ := exists_yields_of_grammar h he
  exact patterns_of_yields hp

/-- Elements made from schemas are the same if they are the same up to normal form. -/
theorem eq_of_map_normal_eq {s' : Schema} {root' : String} {p' : Production} {e' : Element}
    (h : p.Yields s root e) (h' : p'.Yields s' root' e') (hname : e.name = e'.name)
    (halternatives : e.alternatives.map Rule.normal = e'.alternatives.map Rule.normal) :
    e = e' := by
  rw [map_normal_of_yields h, map_normal_of_yields h'] at halternatives
  obtain ⟨name, first, others⟩ := e
  obtain ⟨name', first', others'⟩ := e'
  cases hname
  cases halternatives
  rfl

/-- Grammars of schemas are equal if their texts are. -/
theorem grammar_eq_of_text_eq {s' : Schema} {root' : String} {lists' : ListElements} {g' : Grammar}
    (hg : s.grammar root lists = .ok g) (hg' : s'.grammar root' lists' = .ok g') {text : String}
    (ht : g.text = .ok text) (ht' : g'.text = .ok text) : g = g' := by
  obtain ⟨h, hlines⟩ := Grammar.text_eq_ok_iff.mp ht
  obtain ⟨h', hlines'⟩ := Grammar.text_eq_ok_iff.mp ht'
  have hplain := Grammar.isPlain_of_fault? h (hasBuiltinPatterns_of_grammar hg)
  have hplain' := Grammar.isPlain_of_fault? h' (hasBuiltinPatterns_of_grammar hg')
  have hall := Grammar.forall₂_of_lines_eq hplain hplain' (hlines.trans hlines'.symm)
  have helements : g.elements = g'.elements := by
    refine List.ext_getElem hall.length_eq fun i hi hi' => ?_
    obtain ⟨p, hp⟩ := exists_yields_of_grammar hg (List.getElem_mem hi)
    obtain ⟨p', hp'⟩ := exists_yields_of_grammar hg' (List.getElem_mem hi')
    obtain ⟨hname, halternatives⟩ := hall.get hi hi'
    exact eq_of_map_normal_eq hp hp' hname halternatives
  rw [← Grammar.mk.injEq] at helements
  exact helements

end Schema

namespace Grammar

/-- The text of a grammar determines it: up to normal form in general, and exactly if it is made
from a schema. Each element has one line. -/
theorem text_determines :
    (∀ g g' : Grammar, g.fault? = none → g'.fault? = none → g.HasBuiltinPatterns →
      g'.HasBuiltinPatterns → g.text = g'.text → List.Forall₂ (fun e e' => e.name = e'.name ∧
        e.alternatives.map Rule.normal = e'.alternatives.map Rule.normal)
          g.elements g'.elements) ∧
    (∀ (s s' : Schema) (root root' : String) (lists lists' : ListElements) (g g' : Grammar)
      (text : String), s.grammar root lists = .ok g → s'.grammar root' lists' = .ok g' →
      g.text = .ok text → g'.text = .ok text → g = g') ∧
    ∀ g : Grammar, g.fault? = none → g.HasBuiltinPatterns → ∃ text, g.text = .ok text ∧
      text.toList.count '\n' = g.elements.length ∧
      text.toList.splitOn '\n' = g.elements.map (·.text.toList) ++ [[]] := by
  refine ⟨?_, ?_, ?_⟩
  · intro g g' h h' hp hp' heq
    have hlines : g.lines = g'.lines := by
      rw [text_eq_ok_iff.mpr ⟨h, rfl⟩, text_eq_ok_iff.mpr ⟨h', rfl⟩, Except.ok.injEq] at heq
      exact heq
    exact forall₂_of_lines_eq (isPlain_of_fault? h hp) (isPlain_of_fault? h' hp') hlines
  · intro s s' root root' lists lists' g g' text hg hg' ht ht'
    exact Schema.grammar_eq_of_text_eq hg hg' ht ht'
  · intro g h hp
    have hplain := isPlain_of_fault? h hp
    exact ⟨g.lines, text_eq_ok_iff.mpr ⟨h, rfl⟩, count_lines hplain, splitOn_lines hplain⟩

/-- A literal that is a quote, a pattern, and the start production any number of times. -/
def nestedLeft : Grammar where
  elements := [⟨"root", .sequence [.sequence [.literal "\"", .charClass "\".\"?"],
    .group [.reference "root"] true], []⟩]

/-- The same with other sequences within sequences. -/
def nestedRight : Grammar where
  elements := [⟨"root", .sequence [.literal "\"", .sequence [.sequence [.charClass "\".\"?"],
    .group [.sequence [.reference "root"]] true]], []⟩]

theorem text_nested : nestedLeft.text = .ok "root ::= \"\\\"\"   \".\"?   (root)*\n" ∧
    nestedLeft.text = nestedRight.text ∧ List.Forall₂ (fun e e' => e.name = e'.name ∧
      e.alternatives.map Rule.normal = e'.alternatives.map Rule.normal)
        nestedLeft.elements nestedRight.elements := by
  have hleft : nestedLeft.HasBuiltinPatterns := by
    simp [HasBuiltinPatterns, nestedLeft, Element.alternatives, Builtin.patterns]
  have hright : nestedRight.HasBuiltinPatterns := by
    simp [HasBuiltinPatterns, nestedRight, Element.alternatives, Builtin.patterns]
  have hleftText : nestedLeft.text = .ok nestedLeft.lines := text_eq_of_closed (by decide)
  have hrightText : nestedRight.text = .ok nestedRight.lines := text_eq_of_closed (by decide)
  have hlines : nestedLeft.lines = "root ::= \"\\\"\"   \".\"?   (root)*\n" := by decide
  have htext : nestedLeft.text = nestedRight.text := hleftText.trans hrightText.symm
  exact ⟨hlines ▸ hleftText, htext, text_determines.1 _ _ (text_eq_ok_iff.mp hleftText).1
    (text_eq_ok_iff.mp hrightText).1 hleft hright htext⟩

end Grammar

end SchemaGrammar
