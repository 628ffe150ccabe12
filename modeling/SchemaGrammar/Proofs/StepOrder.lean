import SchemaGrammar.Proofs.AddedDeclarations

/-!
# The order of the resolution steps

In general the steps of the table overlap, and their order decides. Where a schema has a grammar
that can be written, no spelling is claimed by two of them: a spelling of an array is no name, and
each name is that of one production only, which one step finds. Any other order of the steps then
gives the same item types.
-/
namespace SchemaGrammar

section FindSome

variable {α β : Type} {f : α → Option β} {as as' : List α}

/-- Where only one member of a list has a value, it is the first to have one. -/
theorem findSome?_eq_some_iff_of_unique
    (h : ∀ a ∈ as, ∀ b ∈ as, (f a).isSome → (f b).isSome → a = b) {y : β} :
    as.findSome? f = some y ↔ ∃ a ∈ as, f a = some y := by
  refine ⟨List.exists_of_findSome?_eq_some, ?_⟩
  rintro ⟨a, ha, hy⟩
  have hsome : (as.findSome? f).isSome := List.findSome?_isSome_iff.mpr ⟨a, ha, by simp [hy]⟩
  obtain ⟨z, hz⟩ := Option.isSome_iff_exists.mp hsome
  obtain ⟨b, hb, hbz⟩ := List.exists_of_findSome?_eq_some hz
  obtain rfl := h a ha b hb (by simp [hy]) (by simp [hbz])
  rw [hz, ← hbz, hy]

theorem findSome?_eq_of_perm (hperm : as.Perm as')
    (h : ∀ a ∈ as, ∀ b ∈ as, (f a).isSome → (f b).isSome → a = b) :
    as'.findSome? f = as.findSome? f := by
  have h' : ∀ a ∈ as', ∀ b ∈ as', (f a).isSome → (f b).isSome → a = b := by
    intro a ha b hb
    exact h a (hperm.mem_iff.mpr ha) b (hperm.mem_iff.mpr hb)
  apply Option.ext
  intro y
  rw [findSome?_eq_some_iff_of_unique h, findSome?_eq_some_iff_of_unique h']
  simp only [hperm.mem_iff]

end FindSome

namespace ResolutionStep

/-- Whether a step looks up the element of an array, rather than the spelling itself. -/
def readsArrays : ResolutionStep → Bool
  | scalarList | recordArray => true
  | _ => false

def key? (spelling : String) (step : ResolutionStep) : Option String :=
  if step.readsArrays then Spelling.arrayElement spelling else some spelling

def names (scope : Scope) : ResolutionStep → List String
  | builtin => scope.builtins
  | scalarList => [Builtin.string.name, Builtin.number.name]
  | enumeration => scope.enumerations
  | record | recordArray => scope.records

theorem isSome_listOfScalar? {name : String} :
    (listOfScalar? name).isSome ↔ name ∈ [Builtin.string.name, Builtin.number.name] := by
  unfold listOfScalar?
  split_ifs with hstring hnumber
  · simp [hstring]
  · simp [hnumber]
  · simp [hstring, hnumber]

/-- A step claims a spelling if what it looks up is one of its names. -/
theorem isSome_claim_iff {scope : Scope} {spelling : String} {step : ResolutionStep} :
    (step.claim scope spelling).isSome ↔
      ∃ name, step.key? spelling = some name ∧ name ∈ step.names scope := by
  have hscalar (name : String) :
      ((listOfScalar? name).map fun b => ItemType.element b.name).isSome ↔
      name ∈ names scope scalarList := by
    rw [Option.isSome_map, isSome_listOfScalar?, names]
  cases step with
  | builtin | enumeration | record => simp [claim, key?, readsArrays, names]
  | scalarList =>
    cases h : Spelling.arrayElement spelling <;>
      simp only [claim, key?, readsArrays, h, hscalar, Option.bind_none, Option.bind_some] <;> simp
  | recordArray =>
    cases h : Spelling.arrayElement spelling <;> simp [claim, key?, readsArrays, names, h]

end ResolutionStep

def Production.step? (arrays : Bool) : Production → Option ResolutionStep
  | object _ => some (if arrays then .recordArray else .record)
  | values _ => if arrays then none else some .enumeration
  | builtin _ => some (if arrays then .scalarList else .builtin)
  | _ => none

/-- The item type of a spelling if the steps are asked in the order given. -/
def Scope.itemInOrder? (scope : Scope) (steps : List ResolutionStep) (spelling : String) :
    Option ItemType :=
  steps.findSome? (·.claim scope (Spelling.trim spelling))

namespace Schema

variable {s : Schema} {root : String} {g : Grammar}

theorem exists_production_of_mem_names {step : ResolutionStep} {name : String}
    (h : name ∈ step.names s.scope) :
    ∃ p, s.Has p ∧ p.name = name ∧ p.step? step.readsArrays = some step := by
  cases step with
  | builtin =>
    obtain ⟨b, -, rfl⟩ := List.mem_map.mp h
    exact ⟨.builtin b, trivial, rfl, rfl⟩
  | scalarList =>
    simp only [ResolutionStep.names, List.mem_cons, List.not_mem_nil, or_false] at h
    obtain rfl | rfl := h
    · exact ⟨.builtin .string, trivial, rfl, rfl⟩
    · exact ⟨.builtin .number, trivial, rfl, rfl⟩
  | enumeration =>
    obtain ⟨en, hen, rfl⟩ := List.mem_map.mp h
    exact ⟨.values en, hen, rfl, rfl⟩
  | record | recordArray =>
    obtain ⟨r, hr, rfl⟩ := List.mem_map.mp h
    exact ⟨.object r, hr, rfl, rfl⟩

/-- If the names that are kept can be written, so can those of the lists that are dropped. -/
theorem Compiled.isPlainName_of_withLists (h : s.Compiled root g) {lists : ListElements}
    (hplain : ∀ e ∈ (s.withLists lists g).elements, isPlainName e.name = true) :
    ∀ e ∈ g.elements, isPlainName e.name = true := by
  have hinvalid (lists : ListElements) : (s.withLists lists g).invalidNames = [] ↔
      ∀ e ∈ (s.withLists lists g).elements, isPlainName e.name = true := by
    rw [Grammar.invalidNames_eq_nil_iff, Grammar.names, List.forall_mem_map]
  rw [← hinvalid, h.invalidNames_eq_nil_iff, ← h.invalidNames_eq_nil_iff .all, hinvalid] at hplain
  intro e he
  exact hplain e (h.mem_withLists.mpr ⟨he, fun hreferenced => by cases hreferenced⟩)

section Written

variable (h : s.Compiled root g) (hplain : ∀ e ∈ g.elements, isPlainName e.name = true)
  {spelling : String}
include h hplain

/-- No name is an array, so the spelling alone tells what the steps that claim it look up. -/
theorem Compiled.readsArrays_eq {step : ResolutionStep}
    (hstep : (step.claim s.scope spelling).isSome) :
    step.readsArrays = (Spelling.arrayElement spelling).isSome := by
  obtain ⟨name, hkey, hname⟩ := ResolutionStep.isSome_claim_iff.mp hstep
  unfold ResolutionStep.key? at hkey
  cases hreads : step.readsArrays with
  | true =>
    rw [hreads, if_pos rfl] at hkey
    rw [hkey, Option.isSome_some]
  | false =>
    simp only [hreads, Bool.false_eq_true, if_false, Option.some.injEq] at hkey
    obtain ⟨p, hp, hpname, -⟩ := exists_production_of_mem_names hname
    obtain ⟨e, he, hyields⟩ := h.exists_element hp
    have hword : isPlainName spelling = true := by
      rw [hkey, ← hpname, ← name_of_yields hyields]
      exact hplain e he
    rw [Spelling.arrayElement_of_isPlainName hword, Option.isSome_none]

/-- Where names are unique and made of letters, one step at most claims a spelling. -/
theorem Compiled.eq_of_claims {a b : ResolutionStep} (ha : (a.claim s.scope spelling).isSome)
    (hb : (b.claim s.scope spelling).isSome) : a = b := by
  have hreads : a.readsArrays = b.readsArrays :=
    (h.readsArrays_eq hplain ha).trans (h.readsArrays_eq hplain hb).symm
  obtain ⟨x, hx, hxa⟩ := ResolutionStep.isSome_claim_iff.mp ha
  obtain ⟨y, hy, hyb⟩ := ResolutionStep.isSome_claim_iff.mp hb
  have hkey : x = y := by
    rw [ResolutionStep.key?, hreads, ← ResolutionStep.key?, hy, Option.some.injEq] at hx
    exact hx.symm
  -- both steps find the production of that name
  obtain ⟨p, hp, hpx, hpa⟩ := exists_production_of_mem_names hxa
  obtain ⟨q, hq, hqy, hqb⟩ := exists_production_of_mem_names hyb
  obtain rfl := h.eq_of_name_eq hp hq (hpx.trans (hkey.trans hqy.symm))
  rw [hreads, hqb, Option.some.injEq] at hpa
  exact hpa.symm

end Written

/-- In a schema with a grammar text no two steps claim one spelling, so their order is of no
account. -/
theorem steps_exclusive {lists : ListElements} {text : String}
    (h : s.grammarText root lists = .ok text) :
    (∀ spelling a b, (ResolutionStep.claim s.scope spelling a).isSome →
      (ResolutionStep.claim s.scope spelling b).isSome → a = b) ∧
    ∀ steps, steps.Perm ResolutionStep.order → ∀ spelling,
      s.scope.itemInOrder? steps spelling = s.scope.item? spelling := by
  obtain ⟨g, hg, hwritten, -⟩ := exists_grammar_of_grammarText h
  obtain ⟨g₀, hg₀, rfl⟩ := exists_compiled hg
  have hplain := hg₀.isPlainName_of_withLists fun e he => (hwritten e he).name
  refine ⟨fun spelling a b ha hb => hg₀.eq_of_claims hplain ha hb, fun steps hsteps spelling => ?_⟩
  exact findSome?_eq_of_perm hsteps.symm fun a _ b _ ha hb => hg₀.eq_of_claims hplain ha hb

theorem steps_exclusive_tree : ∃ text, tree.grammarText "Node" .referenced = .ok text ∧
    (∀ step, (ResolutionStep.claim tree.scope " Array<Node>" step).isSome → step = .recordArray) ∧
    ResolutionStep.order.reverse.Perm ResolutionStep.order ∧
    tree.scope.itemInOrder? ResolutionStep.order.reverse "string[]" =
      some (.element "stringlist") := by
  have htree : tree.grammar "Node" .referenced = .ok _ := rfl
  obtain ⟨text, htext⟩ := exists_grammarText htree (by decide)
  obtain ⟨hexclusive, horder⟩ := steps_exclusive htext
  have hperm := List.reverse_perm ResolutionStep.order
  refine ⟨text, htext, fun step hstep => hexclusive _ _ _ hstep rfl, hperm, ?_⟩
  rw [horder _ hperm]
  rfl

end Schema

end SchemaGrammar
