import Mathlib.Data.List.Nodup
import SchemaGrammar.Proofs.NameOrder
import SchemaGrammar.Proofs.RelatedLists
import SchemaGrammar.Schema.Grammar

/-!
# The productions of a schema

A grammar is a list of productions, each with the element made from it: the start, two for a record,
one for an enumeration and the built-in ones. A schema has a grammar with all lists exactly if it is
`Compiled` to it; the one with the referenced lists differs by the elements that are dropped.
-/
namespace SchemaGrammar

theorem mapM_eq_ok_iff {ε α β : Type} {f : α → Except ε β} {as : List α} {bs : List β} :
    as.mapM f = .ok bs ↔ List.Forall₂ (fun a b => f a = .ok b) as bs := by
  induction as generalizing bs with
  | nil => simp [pure, Except.pure, eq_comm]
  | cons a as ih =>
    rw [List.mapM_cons, List.forall₂_cons_left_iff]
    cases ha : f a with
    | error e => simp [bind, Except.bind]
    | ok b =>
      cases has : as.mapM f with
      | error e =>
        simp only [has, reduceCtorEq, false_iff] at ih
        simp [bind, Except.bind, ih]
      | ok bs' =>
        simp only [has, Except.ok.injEq] at ih
        simp [bind, Except.bind, pure, Except.pure, ← ih, eq_comm]

inductive Production where
  | start
  | object (r : Record)
  | list (r : Record)
  | values (e : Enumeration)
  | builtin (b : Builtin)

namespace Production

def name : Production → String
  | start => Grammar.rootName
  | object r => r.name
  | list r => listName r.name
  | values e => e.name
  | builtin b => b.name

def Yields (s : Schema) (root : String) : Production → Element → Prop
  | start, e => e = Schema.rootElement root
  | object r, e => r.typeParameters = [] ∧ r.repeatedProperty? = none ∧
      ∃ members, List.Forall₂ (fun p m => Record.resolveProperty s.scope r.name p = .ok m)
        r.properties members ∧ e = Record.objectElement r.name members
  | list r, e => e = Record.listElement r.name
  | values en, e => en.element = .ok e
  | builtin b, e => e = b.element

end Production

namespace Enumeration

theorem alternative_eq_ok_iff {e : Enumeration} {m : Member} {rule : Rule} :
    e.alternative m = .ok rule ↔ ∃ v, m.value = some v ∧ rule = .literal (Text.quoted v) := by
  unfold alternative
  cases m.value <;> simp [eq_comm]

/-- The element of an enumeration has its name and one alternative for each member. -/
theorem element_eq_ok_iff {e : Enumeration} {el : Element} :
    e.element = .ok el ↔
      el.name = e.name ∧
        List.Forall₂ (fun m rule => e.alternative m = .ok rule) e.members el.alternatives := by
  unfold element
  cases e.members with
  | nil => simp [Element.alternatives, throw, throwThe, MonadExceptOf.throw]
  | cons first others =>
    obtain ⟨name, f, os⟩ := el
    rw [Element.alternatives, List.forall₂_cons, ← mapM_eq_ok_iff]
    cases hf : e.alternative first with
    | error err => simp [hf, bind, Except.bind]
    | ok f' =>
      cases hos : others.mapM e.alternative with
      | error err => simp [hf, hos, bind, Except.bind]
      | ok os' => simp [hf, hos, bind, Except.bind, pure, Except.pure, eq_comm]

end Enumeration

theorem Record.elements_eq_ok_iff {scope : Scope} {r : Record} {es : List Element} :
    r.elements scope = .ok es ↔ r.typeParameters = [] ∧ r.repeatedProperty? = none ∧
      ∃ members, List.Forall₂ (fun p m => resolveProperty scope r.name p = .ok m)
        r.properties members ∧ es = [objectElement r.name members, listElement r.name] := by
  simp only [elements, ← mapM_eq_ok_iff]
  by_cases ht : r.typeParameters = []
  · cases hp : r.repeatedProperty? with
    | some p => simp [ht, bind, Except.bind, throw, throwThe, MonadExceptOf.throw]
    | none =>
      cases hm : r.properties.mapM (resolveProperty scope r.name) with
      | error e => simp [ht, bind, Except.bind]
      | ok members => simp [ht, bind, Except.bind, pure, Except.pure, eq_comm]
  · simp [ht, bind, Except.bind, throw, throwThe, MonadExceptOf.throw]

def Declaration.productions : Declaration → List Production
  | .record r => [.object r, .list r]
  | .enumeration e => [.values e]
  | .other _ => []

def Declaration.IsData : Declaration → Prop
  | .other _ => False
  | _ => True

theorem Declaration.isData_of_isSome {d : Declaration} (h : d.enumeration?.isSome = true) :
    d.IsData := by
  cases d with
  | enumeration e => trivial
  | _ => cases h

theorem Declaration.elements_eq_ok_iff {s : Schema} (root : String) {d : Declaration}
    {es : List Element} :
    d.elements s.scope = .ok es ↔
      d.IsData ∧ List.Forall₂ (Production.Yields s root) d.productions es := by
  cases d with
  | record r =>
    rw [elements, Record.elements_eq_ok_iff, productions]
    simp only [IsData, true_and, List.forall₂_cons_left_iff, List.forall₂_nil_left_iff,
      Production.Yields]
    constructor
    · rintro ⟨ht, hp, members, hm, rfl⟩
      exact ⟨_, _, ⟨ht, hp, members, hm, rfl⟩, ⟨_, _, rfl, rfl, rfl⟩, rfl⟩
    · rintro ⟨_, _, ⟨ht, hp, members, hm, rfl⟩, ⟨_, _, rfl, rfl, rfl⟩, rfl⟩
      exact ⟨ht, hp, members, hm, rfl⟩
  | enumeration e =>
    rw [elements, productions]
    cases he : e.element with
    | error err =>
      simp only [Except.map, reduceCtorEq, IsData, true_and, List.forall₂_cons_left_iff,
        Production.Yields, he, false_and, exists_const]
    | ok el =>
      simp [Except.map, IsData, List.forall₂_cons_left_iff, Production.Yields, he, eq_comm]
  | other o => simp [elements, IsData]

namespace Schema

variable {s : Schema} {root : String} {g : Grammar}

def productions (s : Schema) : List Production :=
  .start :: (s.declarations.reverse.flatMap Declaration.productions ++ Builtin.all.map .builtin)

theorem mem_records {r : Record} : r ∈ s.records ↔ .record r ∈ s.declarations := by
  simp only [records, List.mem_filterMap]
  constructor
  · rintro ⟨d, hd, hr⟩
    cases d <;> simp_all [Declaration.record?]
  · intro hr
    exact ⟨_, hr, rfl⟩

theorem mem_enumerations {e : Enumeration} :
    e ∈ s.enumerations ↔ .enumeration e ∈ s.declarations := by
  simp only [enumerations, List.mem_filterMap]
  constructor
  · rintro ⟨d, hd, he⟩
    cases d <;> simp_all [Declaration.enumeration?]
  · intro he
    exact ⟨_, he, rfl⟩

def Has (s : Schema) : Production → Prop
  | .object r | .list r => r ∈ s.records
  | .values e => e ∈ s.enumerations
  | .start | .builtin _ => True

theorem mem_productions {p : Production} : p ∈ s.productions ↔ s.Has p := by
  have hd (d : Declaration) : p ∈ d.productions ↔
      (∃ r, d = .record r ∧ (p = .object r ∨ p = .list r)) ∨
        ∃ e, d = .enumeration e ∧ p = .values e := by
    cases d <;> simp [Declaration.productions]
  simp only [productions, List.mem_cons, List.mem_append, List.mem_flatMap, List.mem_reverse, hd]
  cases p with
  | start => simp [Has]
  | object r => simp [Has, mem_records]
  | list r => simp [Has, mem_records]
  | values e => simp [Has, mem_enumerations]
  | builtin b => cases b <;> simp [Has, Builtin.all]

/-- What it takes for `g` to be the grammar of a schema with all lists. -/
structure Compiled (s : Schema) (root : String) (g : Grammar) : Prop where
  data : ∀ d ∈ s.declarations, d.IsData
  root_mem : root ∈ s.recordNames
  yields : List.Forall₂ (Production.Yields s root) s.productions g.elements
  nodup : (s.productions.map Production.name).Nodup

theorem name_of_yields {p : Production} {e : Element} (h : p.Yields s root e) :
    e.name = p.name := by
  cases p with
  | start => cases h; rfl
  | object r => obtain ⟨-, -, members, -, rfl⟩ := h; rfl
  | list r => cases h; rfl
  | values en => exact (Enumeration.element_eq_ok_iff.mp h).1
  | builtin b => cases h; cases b <;> rfl

theorem names_of_yields {ps : List Production} {es : List Element}
    (h : List.Forall₂ (Production.Yields s root) ps es) :
    es.map Element.name = ps.map Production.name := by
  induction h with
  | nil => rfl
  | cons hp _ ih => rw [List.map_cons, List.map_cons, name_of_yields hp, ih]

/-- The elements of the declarations in order, before they are put together. -/
theorem mapM_elements_eq_ok_iff (root : String) {ds : List Declaration}
    {produced : List (List Element)} :
    ds.mapM (·.elements s.scope) = .ok produced ↔ (∀ d ∈ ds, d.IsData) ∧
      List.Forall₂ (fun d es => List.Forall₂ (Production.Yields s root) d.productions es)
        ds produced := by
  rw [mapM_eq_ok_iff, ← List.forall₂_and_left]
  simp only [Declaration.elements_eq_ok_iff root]

theorem yields_builtin :
    List.Forall₂ (Production.Yields s root) (Builtin.all.map .builtin) Builtin.elements := by
  rw [Builtin.elements, List.forall₂_map_left_iff, List.forall₂_map_right_iff]
  exact List.forall₂_same.mpr fun b _ => rfl

def listed (s : Schema) (lists : ListElements) (elements : List Element) : List Element :=
  match lists with
  | .all => elements
  | .referenced => s.dropUnusedLists elements

def withLists (s : Schema) (lists : ListElements) (g : Grammar) : Grammar :=
  ⟨g.elements.take 1 ++ s.listed lists (g.elements.drop 1)⟩

/-- Without the elements of all declarations there is no grammar. -/
theorem grammar_of_error {lists : ListElements} {e : CompileError}
    (hp : s.declarations.mapM (·.elements s.scope) = .error e) :
    s.grammar root lists = .error e := by
  rw [grammar, hp]
  rfl

/-- The grammar once the elements of all declarations are known. -/
theorem grammar_of_produced {lists : ListElements} {produced : List (List Element)}
    (hp : s.declarations.mapM (·.elements s.scope) = .ok produced) :
    s.grammar root lists =
      let elements := produced.reverse.flatten ++ Builtin.elements
      let repeated := Text.repeatedNames (Grammar.rootName :: elements.map Element.name)
      if root ∈ s.recordNames then
        if repeated = [] then .ok ⟨rootElement root :: s.listed lists elements⟩
        else .error (.duplicateElements (Text.sortedNames repeated))
      else .error (.unknownRoot root (Text.sortedNames s.recordNames)) := by
  unfold grammar
  simp only [hp, bind, Except.bind]
  by_cases hroot : root ∈ s.recordNames
  · simp only [hroot, not_true_eq_false, if_false, if_true]
    split
    · simp [throw, throwThe, MonadExceptOf.throw]
    · next hrep =>
      rw [if_pos (not_not.mp hrep)]
      cases lists <;> rfl
  · simp [hroot, throw, throwThe, MonadExceptOf.throw]

/-- A schema has a grammar if all declarations have elements, the root is a record, and no two
elements share a name. -/
theorem grammar_eq_ok_iff {lists : ListElements} : s.grammar root lists = .ok g ↔
    ∃ produced, s.declarations.mapM (·.elements s.scope) = .ok produced ∧ root ∈ s.recordNames ∧
      (Grammar.rootName :: (produced.reverse.flatten ++ Builtin.elements).map Element.name).Nodup ∧
      g = ⟨rootElement root :: s.listed lists (produced.reverse.flatten ++ Builtin.elements)⟩ := by
  cases hp : s.declarations.mapM (·.elements s.scope) with
  | error e => simp [grammar_of_error hp]
  | ok produced =>
    rw [grammar_of_produced hp]
    simp only [Except.ok.injEq, exists_eq_left', ← Text.repeatedNames_eq_nil_iff]
    by_cases hroot : root ∈ s.recordNames
    · rw [if_pos hroot]
      by_cases hrepeated : Text.repeatedNames (Grammar.rootName ::
          (produced.reverse.flatten ++ Builtin.elements).map Element.name) = []
      · rw [if_pos hrepeated, Except.ok.injEq]
        exact ⟨fun hg => ⟨hroot, hrepeated, hg.symm⟩, fun hg => hg.2.2.symm⟩
      · rw [if_neg hrepeated]
        exact ⟨nofun, fun hg => absurd hg.2.1 hrepeated⟩
    · rw [if_neg hroot]
      exact ⟨nofun, fun hg => absurd hg.1 hroot⟩

/-- The grammar with a choice of lists is made from the one with all lists. -/
theorem grammar_eq_map (s : Schema) (root : String) (lists : ListElements) :
    s.grammar root lists = (s.grammar root .all).map (s.withLists lists) := by
  cases hp : s.declarations.mapM (·.elements s.scope) with
  | error e =>
    rw [grammar_of_error hp, grammar_of_error hp]
    rfl
  | ok produced =>
    rw [grammar_of_produced hp, grammar_of_produced hp]
    dsimp only
    split_ifs
    · cases lists <;> rfl
    · rfl
    · rfl

/-- Once the elements of all declarations are known, so are those of all productions. -/
theorem yields_of_produced (root : String) {produced : List (List Element)}
    (hp : s.declarations.mapM (·.elements s.scope) = .ok produced) :
    List.Forall₂ (Production.Yields s root) s.productions
      (rootElement root :: (produced.reverse.flatten ++ Builtin.elements)) := by
  obtain ⟨-, hds⟩ := (mapM_elements_eq_ok_iff root).mp hp
  refine .cons rfl (List.rel_append ?_ yields_builtin)
  rw [List.flatMap_def]
  apply List.rel_flatten
  rw [List.forall₂_map_left_iff, List.forall₂_reverse_iff]
  exact hds

theorem compiled_of_grammar (h : s.grammar root .all = .ok g) : s.Compiled root g := by
  cases hp : s.declarations.mapM (·.elements s.scope) with
  | error e => cases (grammar_of_error hp).symm.trans h
  | ok produced =>
    have hdata := ((mapM_elements_eq_ok_iff root).mp hp).1
    have hyields := yields_of_produced root hp
    rw [grammar_of_produced hp] at h
    dsimp only at h
    split_ifs at h with hroot hrep
    cases h
    refine ⟨hdata, hroot, hyields, ?_⟩
    rw [← names_of_yields hyields]
    exact Text.repeatedNames_eq_nil_iff.mp hrep

namespace Compiled

variable (h : s.Compiled root g)
include h

theorem exists_element {p : Production} (hp : s.Has p) : ∃ e ∈ g.elements, p.Yields s root e :=
  exists_of_forall₂_of_mem (R := fun e p => p.Yields s root e) h.yields.flip
    (mem_productions.mpr hp)

theorem exists_production {e : Element} (he : e ∈ g.elements) :
    ∃ p, s.Has p ∧ p.Yields s root e := by
  obtain ⟨p, hp, hy⟩ := exists_of_forall₂_of_mem h.yields he
  exact ⟨p, mem_productions.mp hp, hy⟩

/-- Productions of one name are the same. -/
theorem eq_of_name_eq {p q : Production} (hp : s.Has p) (hq : s.Has q) (hname : p.name = q.name) :
    p = q :=
  List.inj_on_of_nodup_map h.nodup (mem_productions.mpr hp) (mem_productions.mpr hq) hname

end Compiled

end Schema

end SchemaGrammar
