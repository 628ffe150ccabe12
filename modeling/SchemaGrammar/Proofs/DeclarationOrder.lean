import Mathlib.Data.List.Perm.Basic
import SchemaGrammar.Proofs.KeptResolution
import SchemaGrammar.Proofs.Outcome
import SchemaGrammar.Proofs.ReferencedLists

/-!
# The order of declarations

What a spelling stands for depends on the declared names only, not on where they are declared.
Schemas with the same declarations in another order have grammars with the same elements: the start
production first, those of the declarations in some order, and the built-in ones last. The root has
a part in the start production only.
-/
namespace SchemaGrammar

namespace Grammar

variable {g g' : Grammar}

theorem find?_eq_some_iff (hnodup : g.names.Nodup) {name : String} {e : Element} :
    g.find? name = some e ↔ e ∈ g.elements ∧ e.name = name := by
  constructor
  · intro he
    exact ⟨List.mem_of_find?_eq_some he, by simpa using List.find?_some he⟩
  · rintro ⟨he, rfl⟩
    cases hfind : g.find? e.name with
    | none =>
      have hne := List.find?_eq_none.mp hfind e he
      simp at hne
    | some e' =>
      have hname : e'.name = e.name := by simpa using List.find?_some hfind
      rw [List.inj_on_of_nodup_map hnodup (List.mem_of_find?_eq_some hfind) he hname]

theorem find?_eq_of_perm (h : g.elements.Perm g'.elements) (hnodup : g.names.Nodup)
    (name : String) : g'.find? name = g.find? name := by
  have hnodup' : g'.names.Nodup := (h.map Element.name).nodup_iff.mp hnodup
  apply Option.ext
  intro e
  rw [find?_eq_some_iff hnodup, find?_eq_some_iff hnodup', h.mem_iff]

end Grammar

namespace Schema

variable {s s' : Schema}

section Perm

variable (h : s.declarations.Perm s'.declarations)
include h

theorem perm_recordNames : s.recordNames.Perm s'.recordNames := (h.filterMap _).map _

theorem perm_enumerationNames : s.enumerationNames.Perm s'.enumerationNames := (h.filterMap _).map _

theorem perm_elementNames_of_perm : s.elementNames.Perm s'.elementNames :=
  ((h.filterMap _).append_left _).append ((perm_recordNames h).map _)

theorem claim_eq_of_perm (spelling : String) (step : ResolutionStep) :
    step.claim s'.scope spelling = step.claim s.scope spelling := by
  cases step with
  | enumeration => exact if_congr (perm_enumerationNames h).mem_iff.symm rfl rfl
  | record => exact if_congr (perm_recordNames h).mem_iff.symm rfl rfl
  | recordArray =>
    have hrecord (name : String) : (if name ∈ s'.recordNames then some (ItemType.array name)
        else none) = if name ∈ s.recordNames then some (.array name) else none :=
      if_congr (perm_recordNames h).mem_iff.symm rfl rfl
    exact congrArg (Option.bind _) (funext hrecord)
  | _ => rfl

theorem keepsItems_of_perm : s.KeepsItems s' := by
  intro spelling item hitem
  unfold Scope.item? at hitem ⊢
  simpa only [claim_eq_of_perm h] using hitem

theorem claims_of_perm {spelling : String} (hclaims : s.Claims spelling) : s'.Claims spelling := by
  obtain ⟨step, item, hitem⟩ := hclaims
  exact ⟨step, item, (claim_eq_of_perm h _ step).trans hitem⟩

theorem usesArray_of_perm {record : String} (huse : s.UsesArray record) : s'.UsesArray record := by
  obtain ⟨r, hr, p, hp, spelling, hspelling, hitem⟩ := huse
  exact ⟨r, (h.filterMap _).mem_iff.mp hr, p, hp, spelling, hspelling,
    keepsItems_of_perm h _ _ hitem⟩

theorem has_of_perm {p : Production} (hp : s.Has p) : s'.Has p := by
  cases p with
  | object r => exact (h.filterMap _).mem_iff.mp hp
  | list r => exact (h.filterMap _).mem_iff.mp hp
  | values e => exact (h.filterMap _).mem_iff.mp hp
  | _ => trivial

theorem Compilable.of_perm {root : String} (hs : s.Compilable root) : s'.Compilable root := by
  have hrecords (r : Record) (hr : r ∈ s'.records) : r ∈ s.records :=
    (h.filterMap _).mem_iff.mpr hr
  have henumerations (e : Enumeration) (he : e ∈ s'.enumerations) : e ∈ s.enumerations :=
    (h.filterMap _).mem_iff.mpr he
  exact {
    noOther := fun d hd => hs.noOther d (h.mem_iff.mpr hd)
    noTypeParameters := fun r hr => hs.noTypeParameters r (hrecords r hr)
    properties_nodup := fun r hr => hs.properties_nodup r (hrecords r hr)
    claims := fun r hr p hp spelling hspelling =>
      claims_of_perm h (hs.claims r (hrecords r hr) p hp spelling hspelling)
    members_ne_nil := fun e he => hs.members_ne_nil e (henumerations e he)
    values := fun e he => hs.values e (henumerations e he)
    root_mem := (perm_recordNames h).mem_iff.mp hs.root_mem
    elementNames_nodup := (perm_elementNames_of_perm h).nodup_iff.mp hs.elementNames_nodup }

end Perm

namespace Compiled

variable {root : String} {g g' : Grammar}

theorem mem_of_perm (hg : s.Compiled root g) (hg' : s'.Compiled root g')
    (h : s.declarations.Perm s'.declarations) {e : Element} (he : e ∈ g.elements) :
    e ∈ g'.elements := by
  obtain ⟨p, hp, hy⟩ := hg.exists_production he
  obtain ⟨e', he', hy'⟩ := hg'.exists_element (has_of_perm h hp)
  have hkept : p.Yields s' root e := (keepsItems_of_perm h).yields hy
  rwa [p.rightUnique_yields s' root hkept hy']

theorem mem_withLists_of_perm (hg : s.Compiled root g) (hg' : s'.Compiled root g')
    (h : s.declarations.Perm s'.declarations) {lists : ListElements} {e : Element}
    (he : e ∈ (s.withLists lists g).elements) : e ∈ (s'.withLists lists g').elements := by
  obtain ⟨hmem, hused⟩ := hg.mem_withLists.mp he
  refine hg'.mem_withLists.mpr ⟨hg.mem_of_perm hg' h hmem, ?_⟩
  intro hlists r hr heq
  exact usesArray_of_perm h (hused hlists r ((h.filterMap _).mem_iff.mpr hr) heq)

theorem perm_withLists (hg : s.Compiled root g) (hg' : s'.Compiled root g')
    (h : s.declarations.Perm s'.declarations) (lists : ListElements) :
    (s.withLists lists g).elements.Perm (s'.withLists lists g').elements := by
  have hnodup : (s.withLists lists g).elements.Nodup :=
    (sublist_withLists lists).nodup (List.Nodup.of_map _ hg.names_nodup)
  have hnodup' : (s'.withLists lists g').elements.Nodup :=
    (sublist_withLists lists).nodup (List.Nodup.of_map _ hg'.names_nodup)
  rw [List.perm_ext_iff_of_nodup hnodup hnodup']
  intro e
  exact ⟨hg.mem_withLists_of_perm hg' h, hg'.mem_withLists_of_perm hg h.symm⟩

theorem builtin_not_mem_listNames (hg : s.Compiled root g) {e : Element}
    (he : e ∈ Builtin.elements) : e.name ∉ s.listNames := by
  obtain ⟨b, -, rfl⟩ := List.mem_map.mp he
  have hname : b.element.name = (Production.builtin b).name := by cases b <;> rfl
  intro hlist
  unfold listNames recordNames at hlist
  obtain ⟨name, hrecord, heq⟩ := List.mem_map.mp hlist
  obtain ⟨r, hr, rfl⟩ := List.mem_map.mp hrecord
  cases hg.eq_list_of_name_eq (p := .builtin b) trivial hr (hname.symm.trans heq.symm)

end Compiled

variable {root : String} {lists : ListElements} {g : Grammar}

/-- The start production comes first and the built-in elements come last. -/
theorem exists_declared (hg : s.grammar root lists = .ok g) :
    ∃ declared, g.elements = rootElement root :: (declared ++ Builtin.elements) := by
  obtain ⟨produced, hproduced, hroot, hnodup, rfl⟩ := grammar_eq_ok_iff.mp hg
  cases lists with
  | all => exact ⟨_, rfl⟩
  | referenced =>
    obtain ⟨g₀, hg₀, -⟩ := exists_compiled hg
    have hkept (keep : Element → Bool) (hkeep : ∀ e ∈ Builtin.elements, keep e = true) :
        (produced.reverse.flatten ++ Builtin.elements).filter keep =
          produced.reverse.flatten.filter keep ++ Builtin.elements := by
      rw [List.filter_append, List.filter_eq_self.mpr hkeep]
    refine ⟨_, congrArg (rootElement root :: ·) (hkept _ ?_)⟩
    intro e he
    simp [hg₀.builtin_not_mem_listNames he]

theorem grammar_root_eq_ok (hg : s.grammar root lists = .ok g) {root' : String}
    (hroot : root' ∈ s.recordNames) :
    s.grammar root' lists = .ok ⟨rootElement root' :: g.elements.tail⟩ := by
  obtain ⟨produced, hproduced, -, hnodup, rfl⟩ := grammar_eq_ok_iff.mp hg
  exact grammar_eq_ok_iff.mpr ⟨produced, hproduced, hroot, hnodup, rfl⟩

/-- The order of declarations decides neither whether there is a grammar nor which elements it has,
and the root decides the start production only. -/
theorem grammar_of_perm (s s' : Schema) (h : s.declarations.Perm s'.declarations) (root : String)
    (lists : ListElements) :
    ((∃ g, s.grammar root lists = .ok g) ↔ ∃ g', s'.grammar root lists = .ok g') ∧
    (∀ g g', s.grammar root lists = .ok g → s'.grammar root lists = .ok g' →
      (∀ name, g'.find? name = g.find? name) ∧ ∃ declared declared', declared.Perm declared' ∧
        g.elements = rootElement root :: (declared ++ Builtin.elements) ∧
        g'.elements = rootElement root :: (declared' ++ Builtin.elements)) ∧
    ∀ g root', s.grammar root lists = .ok g → root' ∈ s.recordNames →
      s.grammar root' lists = .ok ⟨rootElement root' :: g.elements.tail⟩ := by
  refine ⟨?_, ?_, ?_⟩
  · rw [exists_grammar_iff, exists_grammar_iff]
    exact ⟨Compilable.of_perm h, Compilable.of_perm h.symm⟩
  · intro g g' hg hg'
    obtain ⟨declared, hdeclared⟩ := exists_declared hg
    obtain ⟨declared', hdeclared'⟩ := exists_declared hg'
    obtain ⟨g₀, hg₀, rfl⟩ := exists_compiled hg
    obtain ⟨g₀', hg₀', rfl⟩ := exists_compiled hg'
    have hperm := hg₀.perm_withLists hg₀' h lists
    have hnodup : (s.withLists lists g₀).names.Nodup :=
      ((sublist_withLists lists).map Element.name).nodup hg₀.names_nodup
    refine ⟨Grammar.find?_eq_of_perm hperm hnodup, declared, declared', ?_, hdeclared, hdeclared'⟩
    rw [hdeclared, hdeclared', List.perm_cons, List.perm_append_right_iff] at hperm
    exact hperm
  · intro g root' hg hroot
    exact grammar_root_eq_ok hg hroot

def treeReversed : Schema := ⟨tree.declarations.reverse⟩

theorem grammar_treeReversed : tree.declarations.Perm treeReversed.declarations ∧
    (∃ g g', tree.grammar "Node" .referenced = .ok g ∧
      treeReversed.grammar "Node" .referenced = .ok g' ∧
      g.names = ["root", "Other", "Kind", "Node", "Nodelist"] ++ Builtin.names ∧
      g'.names = ["root", "Node", "Nodelist", "Kind", "Other"] ++ Builtin.names ∧
      ∀ name, g'.find? name = g.find? name) ∧
    ∃ g, tree.grammar "Other" .referenced = .ok g := by
  have hperm : tree.declarations.Perm treeReversed.declarations := (List.reverse_perm _).symm
  obtain ⟨hiff, hgrammars, hroots⟩ := grammar_of_perm tree treeReversed hperm "Node" .referenced
  obtain ⟨g', hg'⟩ := hiff.mp ⟨_, rfl⟩
  refine ⟨hperm, ⟨_, g', rfl, hg', rfl, ?_, (hgrammars _ _ rfl hg').1⟩, _, hroots _ _ rfl ?_⟩
  · cases hg'
    rfl
  · decide

end Schema

end SchemaGrammar
