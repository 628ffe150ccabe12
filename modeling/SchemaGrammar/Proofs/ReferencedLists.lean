import SchemaGrammar.Proofs.Meaning
import SchemaGrammar.Proofs.References

/-!
# Grammars with the referenced lists only

A list element is dropped if no property stands for an array of its record. Names are unique and
list elements refer to objects only, so what is dropped is not referred to by anything that is kept,
and the texts of all kept names stay the same.
-/
namespace SchemaGrammar

namespace Schema

/-- Whether a property of some record has a spelling that resolves to an array of a record. -/
def UsesArray (s : Schema) (record : String) : Prop :=
  ∃ r ∈ s.records, ∃ p ∈ r.properties, ∃ spelling ∈ p.type.spellings,
    s.scope.item? spelling = some (.array record)

variable {s : Schema} {root : String} {g : Grammar}

theorem sublist_withLists (lists : ListElements) :
    (s.withLists lists g).elements.Sublist g.elements := by
  have hsub : (s.listed lists (g.elements.drop 1)).Sublist (g.elements.drop 1) := by
    cases lists with
    | all => exact List.Sublist.refl _
    | referenced => exact List.filter_sublist
  have happend := hsub.append_left (g.elements.take 1)
  rwa [List.take_append_drop] at happend

namespace Compiled

variable (h : s.Compiled root g)
include h

theorem elements_eq : g.elements = rootElement root :: g.elements.drop 1 := by
  have hy := h.yields
  rw [productions, List.forall₂_cons_left_iff] at hy
  obtain ⟨e, es, rfl, -, hes⟩ := hy
  rw [hes, List.drop_one, List.tail_cons]

theorem names_nodup : (g.elements.map Element.name).Nodup := by
  rw [names_of_yields h.yields]
  exact h.nodup

theorem eq_of_element_name_eq {e e' : Element} (he : e ∈ g.elements) (he' : e' ∈ g.elements)
    (hname : e.name = e'.name) : e = e' :=
  List.inj_on_of_nodup_map h.names_nodup he he' hname

/-- No other production has the name of a list. -/
theorem eq_list_of_name_eq {p : Production} (hp : s.Has p) {r : Record} (hr : r ∈ s.records)
    (hname : p.name = listName r.name) : p = .list r :=
  h.eq_of_name_eq hp (q := .list r) hr hname

theorem list_mem {r : Record} (hr : r ∈ s.records) : Record.listElement r.name ∈ g.elements := by
  obtain ⟨e, he, rfl⟩ := h.exists_element (p := .list r) hr
  exact he

theorem name_mem_listNames {e : Element} (he : e ∈ g.elements) :
    e.name ∈ s.listNames ↔ ∃ r ∈ s.records, e = Record.listElement r.name := by
  rw [listNames, recordNames, List.map_map, List.mem_map]
  constructor
  · rintro ⟨r, hr, hname⟩
    exact ⟨r, hr, h.eq_of_element_name_eq he (h.list_mem hr) hname.symm⟩
  · rintro ⟨r, hr, rfl⟩
    exact ⟨r, hr, rfl⟩

/-- A list element is used only where a spelling stands for an array of its record. -/
theorem usesArray_of_uses {p : Production} (hp : s.Has p) {r : Record} (hr : r ∈ s.records)
    (huse : p.Uses s root (listName r.name)) : s.UsesArray r.name := by
  have hlist {q : Production} (hq : s.Has q) (hname : listName r.name = q.name) : q = .list r :=
    h.eq_list_of_name_eq hq hr hname.symm
  cases p with
  | start =>
    obtain ⟨r', hr', hroot⟩ := List.mem_map.mp h.root_mem
    cases hlist (q := .object r') hr' (huse.trans hroot.symm)
  | object r' =>
    obtain ⟨p, hp', hname | ⟨spelling, hspelling, x, hx, hname⟩⟩ := huse
    · cases hlist (q := .builtin .blank) trivial hname
    · have hxr := hlist (has_of_reading? hx) hname
      refine ⟨r', hp, p, hp', spelling, hspelling, ?_⟩
      rw [item?_eq_map_reading?, hx]
      cases x <;> cases hxr
      rfl
  | list r' =>
    obtain hname | hname := huse
    · cases hlist (q := .builtin .blank) trivial hname
    · cases hlist (q := .object r') hp hname
  | values e => exact huse.elim
  | builtin b =>
    cases b with
    | stringList =>
      obtain hname | hname := huse
      · cases hlist (q := .builtin .blank) trivial hname
      · cases hlist (q := .builtin .string) trivial hname
    | numberList =>
      obtain hname | hname := huse
      · cases hlist (q := .builtin .blank) trivial hname
      · cases hlist (q := .builtin .number) trivial hname
    | _ => exact huse.elim

/-- Where an array of a record is used, an object element refers to the list element. -/
theorem exists_object_of_usesArray {record : String} (huse : s.UsesArray record) :
    ∃ r ∈ s.records, ∃ e ∈ g.elements, e.name = r.name ∧ listName record ∈ e.references := by
  obtain ⟨r, hr, p, hp, spelling, hspelling, hitem⟩ := huse
  obtain ⟨e, he, hy⟩ := h.exists_element (p := .object r) hr
  refine ⟨r, hr, e, he, name_of_yields hy, ?_⟩
  rw [item?_eq_map_reading?, Option.map_eq_some_iff] at hitem
  obtain ⟨x, hx, hitem⟩ := hitem
  rw [mem_references_of_yields hy]
  refine ⟨p, hp, .inr ⟨spelling, hspelling, x, hx, ?_⟩⟩
  rw [← x.name_item, hitem, ItemType.name]

theorem mem_usedNames {r : Record} (hr : r ∈ s.records) :
    listName r.name ∈ s.usedNames (g.elements.drop 1) ↔ s.UsesArray r.name := by
  rw [usedNames, List.mem_flatMap]
  constructor
  · rintro ⟨e, he, huse⟩
    have hmem : e ∈ g.elements := List.mem_of_mem_drop (List.mem_of_mem_filter he)
    obtain ⟨p, hp, hy⟩ := h.exists_production hmem
    exact h.usesArray_of_uses hp hr ((mem_references_of_yields hy).mp huse)
  · intro huse
    obtain ⟨r', hr', e, he, hname, hmem⟩ := h.exists_object_of_usesArray huse
    refine ⟨e, List.mem_filter.mpr ⟨?_, ?_⟩, hmem⟩
    · -- the start element is not among those that are searched for uses
      rw [h.elements_eq, List.mem_cons] at he
      refine he.resolve_left ?_
      rintro rfl
      cases h.eq_of_name_eq (p := .start) (q := .object r') trivial hr' hname
    · simp only [Bool.not_eq_eq_eq_not, Bool.not_true, List.contains_eq_mem,
        decide_eq_false_iff_not, h.name_mem_listNames he]
      rintro ⟨r'', hr'', rfl⟩
      cases h.eq_list_of_name_eq (p := .object r') hr' hr'' hname.symm

/-- With the referenced lists, all elements are kept but the lists of arrays that are not used. -/
theorem mem_withLists {lists : ListElements} {e : Element} :
    e ∈ (s.withLists lists g).elements ↔ e ∈ g.elements ∧
      (lists = .referenced → ∀ r ∈ s.records, e = Record.listElement r.name →
        s.UsesArray r.name) := by
  cases lists with
  | all => simp [withLists, listed, -List.drop_one]
  | referenced =>
    have hkeep {e : Element} (he : e ∈ g.elements) : (!s.listNames.contains e.name ||
        (s.usedNames (g.elements.drop 1)).contains e.name) = true ↔
        ∀ r ∈ s.records, e = Record.listElement r.name → s.UsesArray r.name := by
      rw [Bool.or_eq_true, Bool.not_eq_true', List.contains_eq_mem, List.contains_eq_mem,
        decide_eq_false_iff_not, decide_eq_true_eq, h.name_mem_listNames he, ← imp_iff_not_or]
      constructor
      · rintro hused r hr rfl
        exact (h.mem_usedNames hr).mp (hused ⟨r, hr, rfl⟩)
      · rintro hused ⟨r, hr, rfl⟩
        exact (h.mem_usedNames hr).mpr (hused r hr rfl)
    have hroot : ∀ r ∈ s.records, rootElement root ≠ Record.listElement r.name := by
      intro r hr heq
      cases h.eq_list_of_name_eq (p := .start) trivial hr (congrArg Element.name heq)
    have helements := h.elements_eq
    have htake : g.elements.take 1 = [rootElement root] := by
      rw [helements]
      rfl
    simp only [withLists, listed, dropUnusedLists, htake, List.singleton_append, List.mem_cons,
      List.mem_filter, forall_const]
    rw [helements, List.mem_cons, ← helements]
    constructor
    · rintro (rfl | ⟨he, hk⟩)
      · exact ⟨.inl rfl, fun r hr heq => absurd heq (hroot r hr)⟩
      · exact ⟨.inr he, (hkeep (List.mem_of_mem_drop he)).mp hk⟩
    · rintro ⟨rfl | he, hk⟩
      · exact .inl rfl
      · exact .inr ⟨he, (hkeep (List.mem_of_mem_drop he)).mpr hk⟩

/-- What is not made from a list is kept. -/
theorem exists_kept {p : Production} (hp : s.Has p) (hlist : ∀ r, p ≠ .list r)
    (lists : ListElements) : ∃ e ∈ (s.withLists lists g).elements, p.Yields s root e := by
  obtain ⟨e, he, hy⟩ := h.exists_element hp
  refine ⟨e, h.mem_withLists.mpr ⟨he, fun _ r hr heq => ?_⟩, hy⟩
  rw [heq] at hy
  exact absurd (h.eq_list_of_name_eq hp hr (name_of_yields hy).symm) (hlist r)

/-- Every name that a kept element refers to is that of a kept element. -/
theorem exists_kept_of_reference {lists : ListElements} {e : Element}
    (he : e ∈ (s.withLists lists g).elements) {name : String} (hname : name ∈ e.references) :
    ∃ e' ∈ (s.withLists lists g).elements, e'.name = name := by
  obtain ⟨p, hp, hy⟩ := h.exists_production (h.mem_withLists.mp he).1
  have huse := (mem_references_of_yields hy).mp hname
  obtain ⟨q, hq, rfl⟩ := exists_of_uses h.root_mem hp huse
  obtain ⟨e', he', hy'⟩ := h.exists_element hq
  -- if the element referred to is a list, this very reference keeps it
  refine ⟨e', h.mem_withLists.mpr ⟨he', fun _ r hr heq => ?_⟩, name_of_yields hy'⟩
  have hlist : q.name = listName r.name := by
    rw [← name_of_yields hy', heq, Record.listElement]
  exact h.usesArray_of_uses hp hr (hlist ▸ huse)

/-- The texts of kept names do not depend on the lists that are dropped. -/
theorem language_withLists (chars : Assignment) (lists : ListElements) {e : Element}
    (he : e ∈ (s.withLists lists g).elements) :
    (s.withLists lists g).language chars e.name = g.language chars e.name := by
  have hsub : ∀ e ∈ (s.withLists lists g).elements, e ∈ g.elements :=
    fun e he => (h.mem_withLists.mp he).1
  apply Grammar.language_eq_of_closed chars
    {name | ∃ e ∈ (s.withLists lists g).elements, e.name = name} hsub
  · rintro e he ⟨e', he', hname⟩
    rwa [h.eq_of_element_name_eq he (hsub e' he') hname.symm]
  · rintro e he - name hname
    exact h.exists_kept_of_reference he hname
  · exact ⟨e, he, rfl⟩

theorem root_mem_withLists (lists : ListElements) :
    rootElement root ∈ (s.withLists lists g).elements := by
  rw [withLists, h.elements_eq]
  exact List.mem_append_left _ List.mem_cons_self

end Compiled

/-- A grammar with a choice of lists is that with all lists, less the lists that are dropped. -/
theorem exists_compiled {lists : ListElements} (h : s.grammar root lists = .ok g) :
    ∃ g₀, s.Compiled root g₀ ∧ g = s.withLists lists g₀ := by
  rw [grammar_eq_map] at h
  cases hg : s.grammar root .all with
  | error e => simp [hg, Except.map] at h
  | ok g₀ =>
    rw [hg, Except.map, Except.ok.injEq] at h
    exact ⟨g₀, compiled_of_grammar hg, h.symm⟩

/-- Compilation preserves meaning: the start production describes what conforms to the root. -/
theorem mem_language_root_iff_conforms {lists : ListElements}
    (h : s.grammar root lists = .ok g) (chars : Assignment) :
    ∃ r ∈ s.records, r.name = root ∧ (∀ r' ∈ s.records, r'.name = root → r' = r) ∧
      ∀ w, w ∈ g.language chars Grammar.rootName ↔ Conforms s chars (.record r) w := by
  obtain ⟨g₀, hg₀, rfl⟩ := exists_compiled h
  obtain ⟨r, hr, rfl, hlanguage⟩ := hg₀.language_root chars
  refine ⟨r, hr, rfl, fun r' hr' hname => ?_, fun w => ?_⟩
  · cases hg₀.eq_of_name_eq (p := .object r') (q := .object r) hr' hr hname
    rfl
  · have hroot : (s.withLists lists g₀).language chars Grammar.rootName =
        g₀.language chars Grammar.rootName :=
      hg₀.language_withLists chars lists (hg₀.root_mem_withLists lists)
    rw [hroot, hlanguage]
    rfl

/-- A record with arrays of itself. -/
def node : Record where
  name := "Node"
  properties := [⟨"kind", ⟨"Kind", ["string"]⟩, none⟩, ⟨"nodes", ⟨"Node[]", []⟩, none⟩]
  typeParameters := []
  location := none

/-- A schema with a list element that is used and one that is not. -/
def tree : Schema where
  declarations := [.record node, .enumeration ⟨"Kind", [⟨"leaf", some "leaf", none⟩], none⟩,
    .record ⟨"Other", [], [], none⟩]

theorem mem_language_tree : ∃ g, tree.grammar "Node" .referenced = .ok g ∧
    ∀ chars, [] ∈ Builtin.blanks chars →
      "\x7b\"kind\":\"leaf\",\"nodes\":[]\x7d".toList ∈ g.language chars Grammar.rootName := by
  refine ⟨_, rfl, fun chars hblank => ?_⟩
  have hgrammar : tree.grammar "Node" .referenced = .ok _ := rfl
  obtain ⟨r, -, -, hunique, hiff⟩ := mem_language_root_iff_conforms hgrammar chars
  have hkind : Conforms tree chars (.type ⟨"Kind", ["string"]⟩) (Text.quote "leaf".toList) :=
    .type List.mem_cons_self rfl (.value List.mem_cons_self rfl)
  have hnodes : Conforms tree chars (.type ⟨"Node[]", []⟩) "[]".toList :=
    .type List.mem_cons_self rfl .emptyArray
  have hfirst := Conforms.property (p := ⟨"kind", _, none⟩) hblank hblank hkind
  have hsecond := Conforms.property (p := ⟨"nodes", _, none⟩) hblank hblank hnodes
  have hproperties := Conforms.properties hfirst (.others hsecond .noOthers)
  rw [hiff, ← hunique node (by decide) rfl]
  exact .record (r := node) hproperties

/-- How a grammar with the referenced lists differs from that with all lists. -/
structure DropsUnusedLists (s : Schema) (g g' : Grammar) : Prop where
  sublist : g'.elements.Sublist g.elements
  dropped_iff : ∀ e, e ∈ g.elements ∧ e ∉ g'.elements ↔
    ∃ r ∈ s.records, e = Record.listElement r.name ∧ ¬ s.UsesArray r.name
  dropped_ne : ∀ e ∈ g.elements, e ∉ g'.elements → e.name ≠ Grammar.rootName ∧
    e.name ∉ Builtin.names ∧ e.name ∉ s.recordNames ∧ e.name ∉ s.enumerationNames
  not_referenced : ∀ e ∈ g.elements, e ∉ g'.elements → ∀ e' ∈ g'.elements, e.name ∉ e'.references
  language_root : ∀ chars : Assignment,
    g'.language chars Grammar.rootName = g.language chars Grammar.rootName

theorem Compiled.dropsUnusedLists (h : s.Compiled root g) :
    s.DropsUnusedLists g (s.withLists .referenced g) := by
  have hdropped : ∀ e, e ∈ g.elements ∧ e ∉ (s.withLists .referenced g).elements ↔
      ∃ r ∈ s.records, e = Record.listElement r.name ∧ ¬ s.UsesArray r.name := by
    intro e
    rw [h.mem_withLists]
    constructor
    · rintro ⟨he, hdrop⟩
      simpa [he] using hdrop
    · rintro ⟨r, hr, rfl, huse⟩
      exact ⟨h.list_mem hr, fun hkeep => huse (hkeep.2 rfl r hr rfl)⟩
  refine ⟨sublist_withLists .referenced, hdropped, ?_, ?_, ?_⟩
  · intro e he hdrop
    obtain ⟨r, hr, rfl, -⟩ := (hdropped e).mp ⟨he, hdrop⟩
    have hlist {q : Production} (hq : s.Has q) (hname : q.name = listName r.name) : q = .list r :=
      h.eq_list_of_name_eq hq hr hname
    refine ⟨fun hname => ?_, fun hname => ?_, fun hname => ?_, fun hname => ?_⟩
    · cases hlist (q := .start) trivial hname.symm
    · obtain ⟨b, -, hb⟩ := List.mem_map.mp hname
      cases hlist (q := .builtin b) trivial hb
    · obtain ⟨r', hr', hname'⟩ := List.mem_map.mp hname
      cases hlist (q := .object r') hr' hname'
    · obtain ⟨en, hen, hname'⟩ := List.mem_map.mp hname
      cases hlist (q := .values en) hen hname'
  · intro e he hdrop e' he' hname
    obtain ⟨e'', he'', heq⟩ := h.exists_kept_of_reference he' hname
    have hmem : e'' ∈ g.elements := (h.mem_withLists.mp he'').1
    exact hdrop (h.eq_of_element_name_eq hmem he heq ▸ he'')
  · exact fun chars => h.language_withLists chars _ (h.root_mem_withLists _)

/-- Both choices of lists fail alike, or give grammars that differ by unused lists. -/
theorem grammar_referenced_agrees (s : Schema) (root : String) :
    (∀ e, s.grammar root .referenced = .error e ↔ s.grammar root .all = .error e) ∧
      ∀ g, s.grammar root .all = .ok g →
        ∃ g', s.grammar root .referenced = .ok g' ∧ s.DropsUnusedLists g g' := by
  rw [grammar_eq_map s root .referenced]
  constructor
  · intro e
    cases s.grammar root .all <;> simp [Except.map]
  · intro g hg
    refine ⟨s.withLists .referenced g, by rw [hg, Except.map], ?_⟩
    exact (compiled_of_grammar hg).dropsUnusedLists

theorem tree_referenced_agrees : ∃ g g', tree.grammar "Node" .all = .ok g ∧
    tree.grammar "Node" .referenced = .ok g' ∧ tree.DropsUnusedLists g g' := by
  obtain ⟨g', hg', h⟩ := (grammar_referenced_agrees tree "Node").2 _ rfl
  exact ⟨_, g', rfl, hg', h⟩

end Schema

end SchemaGrammar
