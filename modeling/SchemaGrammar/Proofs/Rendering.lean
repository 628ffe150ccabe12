import SchemaGrammar.Proofs.ReferencedLists

/-!
# Which grammars can be written

A grammar of a schema is closed under references, so only names can keep it from being written: the
built-in names and the names of lists do no harm, hence it is the declared names that count.
-/
namespace SchemaGrammar

theorem isPlainName_listName {record : String} (h : isPlainName record = true) :
    isPlainName (listName record) = true := by
  have hlist : "list".toList.all Char.isAlpha = true := rfl
  rw [isPlainName, Bool.and_eq_true] at h ⊢
  rw [listName, String.toList_append, List.all_append, h.2, hlist]
  simp

theorem isPlainName_builtin (b : Builtin) : isPlainName b.name = true := by
  cases b <;> rfl

namespace Grammar

variable {g : Grammar}

theorem invalidNames_eq_nil_iff :
    g.invalidNames = [] ↔ ∀ name ∈ g.names, isPlainName name = true := by
  simp [invalidNames, List.filter_eq_nil_iff]

theorem mem_missingNames {name : String} :
    name ∈ g.missingNames ↔ name ∉ g.names ∧ ∃ e ∈ g.elements, name ∈ e.references := by
  rw [missingNames, Text.mem_sortedNames, List.mem_filter, List.mem_flatMap, and_comm]
  simp

theorem missingNames_eq_nil_iff :
    g.missingNames = [] ↔ ∀ e ∈ g.elements, ∀ name ∈ e.references, name ∈ g.names := by
  rw [List.eq_nil_iff_forall_not_mem]
  constructor
  · intro h e he name hname
    by_contra hnot
    exact h name (mem_missingNames.mpr ⟨hnot, e, he, hname⟩)
  · intro h name hmem
    obtain ⟨hnot, e, he, hname⟩ := mem_missingNames.mp hmem
    exact hnot (h e he name hname)

/-- A grammar can be written if its names are plain and every reference names an element. -/
theorem fault?_eq_none_iff : g.fault? = none ↔ (∀ name ∈ g.names, isPlainName name = true) ∧
    ∀ e ∈ g.elements, ∀ name ∈ e.references, name ∈ g.names := by
  rw [← invalidNames_eq_nil_iff, ← missingNames_eq_nil_iff, fault?]
  split_ifs <;> simp_all

theorem text_eq_ok_iff {text : String} : g.text = .ok text ↔ g.fault? = none ∧ g.lines = text := by
  rw [Grammar.text]
  cases g.fault? <;> simp

/-- In a grammar that is closed under references, only names can be at fault. -/
theorem fault?_eq_of_closed (h : ∀ e ∈ g.elements, ∀ name ∈ e.references, name ∈ g.names) :
    g.fault? = if g.invalidNames = [] then none else some (.invalidNames g.invalidNames) := by
  rw [fault?, missingNames_eq_nil_iff.mpr h]
  by_cases hnames : g.invalidNames = [] <;> simp [hnames]

/-- The text of a grammar that is closed under references depends on its names only. -/
theorem text_eq_of_closed (h : ∀ e ∈ g.elements, ∀ name ∈ e.references, name ∈ g.names) :
    g.text =
      if g.invalidNames = [] then .ok g.lines else .error (.invalidNames g.invalidNames) := by
  rw [text, fault?_eq_of_closed h]
  by_cases hnames : g.invalidNames = [] <;> simp [hnames]

end Grammar

namespace Schema

variable {s : Schema} {root : String} {g : Grammar}

namespace Compiled

variable (h : s.Compiled root g)
include h

/-- The names of a grammar are plain exactly if those of all declarations are. -/
theorem invalidNames_eq_nil_iff (lists : ListElements) :
    (s.withLists lists g).invalidNames = [] ↔
      ∀ d ∈ s.declarations, ∃ name, d.name? = some name ∧ isPlainName name = true := by
  have hplain : (s.withLists lists g).invalidNames = [] ↔
      ∀ e ∈ (s.withLists lists g).elements, isPlainName e.name = true := by
    rw [Grammar.invalidNames_eq_nil_iff, Grammar.names, List.forall_mem_map]
  rw [hplain]
  constructor
  · intro hall d hd
    -- the element that bears the declared name is not that of a list, hence it is kept
    have hkept {p : Production} (hp : s.Has p) (hlist : ∀ r, p ≠ .list r) :
        isPlainName p.name = true := by
      obtain ⟨e, he, hy⟩ := h.exists_kept hp hlist lists
      rw [← name_of_yields hy]
      exact hall e he
    cases d with
    | record r => exact ⟨_, rfl, hkept (p := .object r) (mem_records.mpr hd) (by simp)⟩
    | enumeration e =>
      exact ⟨_, rfl, hkept (p := .values e) (mem_enumerations.mpr hd) (by simp)⟩
    | other o => exact (h.data _ hd).elim
  · intro hall e he
    have hrecord : ∀ r ∈ s.records, isPlainName r.name = true := by
      intro r hr
      obtain ⟨name, hname, hplain⟩ := hall _ (mem_records.mp hr)
      cases hname
      exact hplain
    obtain ⟨p, hp, hy⟩ := h.exists_production (h.mem_withLists.mp he).1
    rw [name_of_yields hy]
    cases p with
    | start => rfl
    | object r => exact hrecord r hp
    | list r => exact isPlainName_listName (hrecord r hp)
    | values en =>
      obtain ⟨name, hname, hplain⟩ := hall _ (mem_enumerations.mp hp)
      cases hname
      exact hplain
    | builtin b => exact isPlainName_builtin b

end Compiled

/-- References of a grammar are closed, and it is written exactly if all declared names are
plain. -/
theorem closed_and_text_eq {lists : ListElements} (h : s.grammar root lists = .ok g) :
    (∀ e ∈ g.elements, ∀ rule ∈ e.alternatives, ∀ name, (Rule.reference name).Within rule →
      ∃ e' ∈ g.elements, e'.name = name) ∧
    (∀ uses, g.fault? ≠ some (.danglingReferences uses)) ∧
    ((∃ text, g.text = .ok text) ↔
      ∀ d ∈ s.declarations, ∃ name, d.name? = some name ∧ isPlainName name = true) ∧
    ((¬ ∀ d ∈ s.declarations, ∃ name, d.name? = some name ∧ isPlainName name = true) →
      g.text = .error (.invalidNames (g.names.filter (!isPlainName ·)))) := by
  obtain ⟨g₀, hg₀, rfl⟩ := exists_compiled h
  have hclosed : ∀ e ∈ (s.withLists lists g₀).elements, ∀ name ∈ e.references,
      name ∈ (s.withLists lists g₀).names := by
    intro e he name hname
    exact List.mem_map.mpr (hg₀.exists_kept_of_reference he hname)
  have htext := Grammar.text_eq_of_closed hclosed
  refine ⟨?_, ?_, ?_, ?_⟩
  · intro e he rule hrule name hwithin
    refine hg₀.exists_kept_of_reference he ?_
    exact List.mem_flatMap.mpr ⟨rule, hrule, Rule.mem_references_of_within hwithin⟩
  · intro uses
    rw [Grammar.fault?, Grammar.missingNames_eq_nil_iff.mpr hclosed]
    split_ifs <;> simp_all
  · rw [htext, ← hg₀.invalidNames_eq_nil_iff lists]
    split_ifs with hnames <;> simp [hnames]
  · intro hnot
    rw [← hg₀.invalidNames_eq_nil_iff lists] at hnot
    rw [htext, if_neg hnot, Grammar.invalidNames]

/-- A schema with a name that cannot be written. -/
def numbered : Schema where
  declarations := [.record ⟨"Node2", [], [], none⟩]

theorem text_tree_and_numbered :
    (∃ g, tree.grammar "Node" .all = .ok g ∧ ∃ text, g.text = .ok text) ∧
      ∃ g, numbered.grammar "Node2" .all = .ok g ∧
        g.text = .error (.invalidNames ["Node2", "Node2list"]) := by
  have htree : tree.grammar "Node" .all = .ok _ := rfl
  have hnumbered : numbered.grammar "Node2" .all = .ok _ := rfl
  obtain ⟨-, -, hwritten, -⟩ := closed_and_text_eq htree
  obtain ⟨-, -, -, hinvalid⟩ := closed_and_text_eq hnumbered
  exact ⟨⟨_, htree, hwritten.mpr (by decide)⟩, ⟨_, hnumbered, hinvalid (by decide)⟩⟩

end Schema

end SchemaGrammar
