import Mathlib.Data.List.Flatten
import SchemaGrammar.Proofs.Faults

/-!
# When a schema has a grammar, and why it has none

`Schema.Fault` says which error is the first of a schema, reading the declarations in order, each
of them from its head on, then the root and then the names of all elements. A schema without a
fault is `Compilable`, a condition on its declarations, its root and its names; such a schema has a
grammar, and any other gives the error of its fault.
-/
namespace SchemaGrammar

namespace Schema

def elementNames (s : Schema) : List String :=
  Grammar.rootName :: Builtin.names ++ s.declarations.filterMap Declaration.name? ++
    s.recordNames.map listName

/-- The first error of a schema with a root: of a declaration, else of the root, else of names. -/
inductive Fault (s : Schema) (root : String) : CompileError → Prop
  | declaration {e} : FirstFault (Declaration.Fault s) s.declarations e → Fault s root e
  | unknownRoot {records} : (∀ d ∈ s.declarations, ∀ e, ¬ d.Fault s e) → root ∉ s.recordNames →
      records.Pairwise (· < ·) → (∀ name, name ∈ records ↔ name ∈ s.recordNames) →
      Fault s root (.unknownRoot root records)
  | duplicateElements {names} : (∀ d ∈ s.declarations, ∀ e, ¬ d.Fault s e) →
      root ∈ s.recordNames → ¬ s.elementNames.Nodup → names.Pairwise (· < ·) →
      (∀ name, name ∈ names ↔ 1 < s.elementNames.count name) →
      Fault s root (.duplicateElements names)

structure Compilable (s : Schema) (root : String) : Prop where
  noOther : ∀ d ∈ s.declarations, ∀ o, d ≠ .other o
  noTypeParameters : ∀ r ∈ s.records, r.typeParameters = []
  properties_nodup : ∀ r ∈ s.records, (r.properties.map Property.name).Nodup
  claims : ∀ r ∈ s.records, ∀ p ∈ r.properties, ∀ spelling ∈ p.type.spellings, s.Claims spelling
  members_ne_nil : ∀ e ∈ s.enumerations, e.members ≠ []
  values : ∀ e ∈ s.enumerations, ∀ m ∈ e.members, ∃ value, m.value = some value
  root_mem : root ∈ s.recordNames
  elementNames_nodup : s.elementNames.Nodup

variable {s : Schema} {root : String} {lists : ListElements} {e : CompileError}

theorem elements_eq_error_iff {d : Declaration} : d.elements s.scope = .error e ↔ d.Fault s e := by
  cases d with
  | record r => exact Record.elements_eq_error_iff
  | enumeration en =>
    rw [Declaration.elements, Declaration.Fault, ← Enumeration.element_eq_error_iff]
    cases en.element <;> simp [Except.map]
  | other o => simp [Declaration.elements, Declaration.Fault, eq_comm]

theorem mapM_elements_eq_error_iff : s.declarations.mapM (·.elements s.scope) = .error e ↔
    FirstFault (Declaration.Fault s) s.declarations e := by
  simp only [mapM_eq_error_iff, elements_eq_error_iff]

theorem perm_declaredNames {ds : List Declaration} (h : ∀ d ∈ ds, d.IsData) :
    (ds.flatMap fun d => d.productions.map Production.name).Perm
      (ds.filterMap Declaration.name? ++
        (ds.filterMap Declaration.record?).map fun r => listName r.name) := by
  induction ds with
  | nil => exact .refl _
  | cons d ds ih =>
    rw [List.forall_mem_cons] at h
    have ih := ih h.2
    cases d with
    | record r => exact .cons _ ((ih.cons _).trans List.perm_middle.symm)
    | enumeration en => exact .cons _ ih
    | other o => exact h.1.elim

/-- The names of the productions are those of the elements, in another order. -/
theorem perm_elementNames (h : ∀ d ∈ s.declarations, d.IsData) :
    (s.productions.map Production.name).Perm s.elementNames := by
  have hbuiltin : (Builtin.all.map Production.builtin).map Production.name = Builtin.names := rfl
  have hlists : s.recordNames.map listName = (s.declarations.filterMap Declaration.record?).map
      fun r => listName r.name := by
    rw [recordNames, records, List.map_map]
    rfl
  rw [productions, elementNames, hlists, List.map_cons, List.map_append, hbuiltin,
    List.map_flatMap, List.cons_append, List.cons_append, List.append_assoc]
  refine .cons _ (List.perm_append_comm.trans (.append_left _ ?_))
  exact ((List.reverse_perm _).flatMap_right _).trans (perm_declaredNames h)

theorem isData_of_not_fault {d : Declaration} (h : ∀ e, ¬ d.Fault s e) : d.IsData := by
  cases d with
  | other o => exact absurd rfl (h _)
  | _ => trivial

/-- With the elements of all declarations at hand, the root and the names decide. -/
theorem grammar_eq_error_iff_of_produced {produced : List (List Element)}
    (hp : s.declarations.mapM (·.elements s.scope) = .ok produced)
    (hsound : ∀ d ∈ s.declarations, ∀ e, ¬ d.Fault s e) :
    s.grammar root lists = .error e ↔ s.Fault root e := by
  have hfirst : ¬ FirstFault (Declaration.Fault s) s.declarations e :=
    forall_not_firstFault.mpr hsound e
  have hperm := perm_elementNames fun d hd => isData_of_not_fault (hsound d hd)
  rw [← names_of_yields (yields_of_produced root hp), List.map_cons] at hperm
  change (Grammar.rootName :: _).Perm _ at hperm
  rw [grammar_of_produced hp]
  dsimp only
  split_ifs with hroot hnames
  · rw [Text.repeatedNames_eq_nil_iff, hperm.nodup_iff] at hnames
    constructor
    · intro h
      cases h
    · rintro (he | ⟨-, hroot'⟩ | ⟨-, -, hnames'⟩)
      · exact absurd he hfirst
      · exact absurd hroot hroot'
      · exact absurd hnames hnames'
  · rw [Text.repeatedNames_eq_nil_iff, hperm.nodup_iff] at hnames
    have hrepeated (names : List String) : names = Text.sortedNames (Text.repeatedNames
        (Grammar.rootName :: (produced.reverse.flatten ++ Builtin.elements).map Element.name)) ↔
        names.Pairwise (· < ·) ∧ ∀ name, name ∈ names ↔ 1 < s.elementNames.count name := by
      simp only [Text.eq_sortedNames_iff, Text.mem_repeatedNames, hperm.count_eq]
    constructor
    · intro h
      cases h
      obtain ⟨hsorted, hmem⟩ := (hrepeated _).mp rfl
      exact .duplicateElements hsound hroot hnames hsorted hmem
    · rintro (he | ⟨-, hroot'⟩ | ⟨-, -, -, hsorted, hmem⟩)
      · exact absurd he hfirst
      · exact absurd hroot hroot'
      · rw [(hrepeated _).mpr ⟨hsorted, hmem⟩]
  · constructor
    · intro h
      cases h
      exact .unknownRoot hsound hroot (Text.pairwise_sortedNames _) fun _ => Text.mem_sortedNames
    · rintro (he | ⟨-, -, hsorted, hmem⟩ | ⟨-, hroot'⟩)
      · exact absurd he hfirst
      · rw [Text.eq_sortedNames_iff.mpr ⟨hsorted, hmem⟩]
      · exact absurd hroot' hroot

theorem grammar_eq_error_iff : s.grammar root lists = .error e ↔ s.Fault root e := by
  cases hp : s.declarations.mapM (·.elements s.scope) with
  | error e' =>
    have hunsound : ¬ ∀ d ∈ s.declarations, ∀ e, ¬ d.Fault s e := by
      intro hsound
      exact forall_not_firstFault.mpr hsound e' (mapM_elements_eq_error_iff.mp hp)
    have hfault : s.Fault root e ↔ FirstFault (Declaration.Fault s) s.declarations e := by
      constructor
      · rintro (he | ⟨hsound, -⟩ | ⟨hsound, -⟩)
        · exact he
        · exact absurd hsound hunsound
        · exact absurd hsound hunsound
      · exact .declaration
    rw [hfault, ← mapM_elements_eq_error_iff, hp, grammar_of_error hp]
    simp
  | ok produced =>
    refine grammar_eq_error_iff_of_produced hp (forall_not_firstFault.mp fun e' he' => ?_)
    cases hp.symm.trans (mapM_elements_eq_error_iff.mpr he')

theorem forall_not_fault_iff : (∀ e, ¬ s.Fault root e) ↔
    (∀ d ∈ s.declarations, ∀ e, ¬ d.Fault s e) ∧ root ∈ s.recordNames ∧
      s.elementNames.Nodup := by
  constructor
  · intro h
    have hsound := forall_not_firstFault.mp fun e he => h e (.declaration he)
    have hroot : root ∈ s.recordNames := by
      by_contra hroot
      exact h _ (.unknownRoot hsound hroot (Text.pairwise_sortedNames s.recordNames) fun _ =>
        Text.mem_sortedNames)
    refine ⟨hsound, hroot, ?_⟩
    by_contra hnames
    exact h _ (.duplicateElements hsound hroot hnames
      (Text.pairwise_sortedNames (Text.repeatedNames s.elementNames)) fun _ =>
        Text.mem_sortedNames.trans Text.mem_repeatedNames)
  · rintro ⟨hsound, hroot, hnames⟩ e (he | ⟨-, hroot'⟩ | ⟨-, -, hnames'⟩)
    · exact forall_not_firstFault.mpr hsound e he
    · exact hroot' hroot
    · exact hnames' hnames

theorem forall_not_declaration_fault_iff : (∀ d ∈ s.declarations, ∀ e, ¬ d.Fault s e) ↔
    (∀ d ∈ s.declarations, ∀ o, d ≠ .other o) ∧ (∀ r ∈ s.records, ∀ e, ¬ r.Fault s e) ∧
      ∀ en ∈ s.enumerations, ∀ e, ¬ en.Fault e := by
  constructor
  · intro h
    refine ⟨?_, fun r hr => h _ (mem_records.mp hr), fun en hen => h _ (mem_enumerations.mp hen)⟩
    rintro d hd o rfl
    exact h _ hd _ rfl
  · rintro ⟨hother, hrecords, henumerations⟩ d hd
    cases d with
    | record r => exact hrecords r (mem_records.mpr hd)
    | enumeration en => exact henumerations en (mem_enumerations.mpr hd)
    | other o => exact absurd rfl (hother _ hd o)

theorem compilable_iff : s.Compilable root ↔ ∀ e, ¬ s.Fault root e := by
  simp only [forall_not_fault_iff, forall_not_declaration_fault_iff, Record.forall_not_fault_iff,
    Enumeration.forall_not_fault_iff]
  constructor
  · intro h
    exact ⟨⟨h.noOther,
      fun r hr => ⟨h.noTypeParameters r hr, h.properties_nodup r hr, h.claims r hr⟩,
      fun e he => ⟨h.members_ne_nil e he, h.values e he⟩⟩, h.root_mem, h.elementNames_nodup⟩
  · rintro ⟨⟨hother, hrecords, henumerations⟩, hroot, hnames⟩
    exact {
      noOther := hother
      noTypeParameters := fun r hr => (hrecords r hr).1
      properties_nodup := fun r hr => (hrecords r hr).2.1
      claims := fun r hr => (hrecords r hr).2.2
      members_ne_nil := fun e he => (henumerations e he).1
      values := fun e he => (henumerations e he).2
      root_mem := hroot
      elementNames_nodup := hnames }

theorem exists_grammar_iff : (∃ g, s.grammar root lists = .ok g) ↔ s.Compilable root := by
  rw [compilable_iff, ← forall_ne_error_iff]
  simp only [ne_eq, grammar_eq_error_iff]

/-- A schema has a grammar exactly if it is compilable, and any error is that of its fault. -/
theorem grammar_outcome (s : Schema) (root : String) (lists : ListElements) :
    ((∃ g, s.grammar root lists = .ok g) ↔ s.Compilable root) ∧
      ∀ e, s.grammar root lists = .error e ↔ s.Fault root e :=
  ⟨exists_grammar_iff, fun _ => grammar_eq_error_iff⟩

end Schema

end SchemaGrammar
