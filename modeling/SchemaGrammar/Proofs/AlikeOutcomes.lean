import SchemaGrammar.Proofs.Faults

/-!
# Alike outcomes

Compiling part after part keeps outcomes alike: the values are related, or the errors are the same
but for what is left out of both. What is left out is a parameter: a place, or a spelling. From
records whose properties are resolved alike, the grammars of schemas are alike.
-/
namespace SchemaGrammar

theorem mapError_eq_ok_iff {ε ε' α : Type} {f : ε → ε'} {x : Except ε α} {a : α} :
    x.mapError f = .ok a ↔ x = .ok a := by
  cases x <;> simp [Except.mapError]

theorem bind_eq_ok_iff {ε α β : Type} {x : Except ε α} {f : α → Except ε β} {b : β} :
    x.bind f = .ok b ↔ ∃ a, x = .ok a ∧ f a = .ok b := by
  cases x <;> simp [Except.bind]

theorem mapError_eq_mapError_iff {ε ε' α : Type} {f : ε → ε'} {x x' : Except ε α} :
    x'.mapError f = x.mapError f ↔
      x' = x ∨ ∃ e e', x = .error e ∧ x' = .error e' ∧ f e' = f e := by
  cases x <;> cases x' <;> simp [Except.mapError]
  exact fun h => h ▸ rfl

/-- Two outcomes are values related by `R`, or the same error but for what `forget` leaves out. -/
inductive AlikeOutcome (forget : CompileError → CompileError) {α β : Type} (R : α → β → Prop) :
    Except CompileError α → Except CompileError β → Prop
  | ok {a b} : R a b → AlikeOutcome forget R (.ok a) (.ok b)
  | error {e e'} : forget e' = forget e → AlikeOutcome forget R (.error e) (.error e')

namespace AlikeOutcome

variable {forget : CompileError → CompileError} {α α' β β' : Type} {R : α → α' → Prop}
  {R' : β → β' → Prop} {x : Except CompileError α} {x' : Except CompileError α'}

theorem refl (x : Except CompileError α) : AlikeOutcome forget Eq x x := by
  cases x with
  | ok a => exact .ok rfl
  | error e => exact .error rfl

theorem exists_of_ok {a : α} (hx : AlikeOutcome forget R (.ok a) x') :
    ∃ a', x' = .ok a' ∧ R a a' := by
  cases hx with
  | ok ha => exact ⟨_, rfl, ha⟩

theorem exists_of_error {e : CompileError} (hx : AlikeOutcome forget R (.error e) x') :
    ∃ e', x' = .error e' ∧ forget e' = forget e := by
  cases hx with
  | error he => exact ⟨_, rfl, he⟩

theorem bind (hx : AlikeOutcome forget R x x') {f : α → Except CompileError β}
    {f' : α' → Except CompileError β'}
    (hf : ∀ a a', R a a' → AlikeOutcome forget R' (f a) (f' a')) :
    AlikeOutcome forget R' (x >>= f) (x' >>= f') := by
  cases hx with
  | ok ha => exact hf _ _ ha
  | error he => exact .error he

theorem map (hx : AlikeOutcome forget R x x') {f : α → β} {f' : α' → β'}
    (hf : ∀ a a', R a a' → R' (f a) (f' a')) : AlikeOutcome forget R' (x.map f) (x'.map f') := by
  cases hx with
  | ok ha => exact .ok (hf _ _ ha)
  | error he => exact .error he

theorem mapM {γ γ' : Type} {P : γ → γ' → Prop} {as : List γ} {as' : List γ'}
    (h : List.Forall₂ P as as') {f : γ → Except CompileError α} {f' : γ' → Except CompileError α'}
    (hf : ∀ a a', P a a' → AlikeOutcome forget R (f a) (f' a')) :
    AlikeOutcome forget (List.Forall₂ R) (as.mapM f) (as'.mapM f') := by
  induction h with
  | nil => exact .ok .nil
  | cons ha _ ih =>
    rw [List.mapM_cons, List.mapM_cons]
    exact (hf _ _ ha).bind fun b b' hb => ih.bind fun bs bs' hbs => .ok (.cons hb hbs)

end AlikeOutcome

/-! ## Records -/

namespace Record

variable {forget : CompileError → CompileError} {P : Property → Property → Prop}

def AlikeMember (m m' : Property × Rule) : Prop := m'.1.name = m.1.name ∧ m'.2 = m.2

theorem memberRules_eq {ms ms' : List (Property × Rule)} (h : List.Forall₂ AlikeMember ms ms') :
    memberRules ms' = memberRules ms := by
  have hproperty (m m' : Property × Rule) (hm : AlikeMember m m') :
      propertyRules m'.1 m'.2 = propertyRules m.1 m.2 := by
    rw [propertyRules, hm.1, hm.2, propertyRules]
  cases h with
  | nil => rfl
  | @cons m m' ms ms' hm hms =>
    rw [memberRules, memberRules, hproperty m m' hm, List.flatMap_def, List.flatMap_def]
    rw [map_eq_of_forall₂ hms fun m m' hm => by dsimp only; rw [hproperty m m' hm]]

theorem repeatedProperty?_alike (hname : ∀ p p', P p p' → p'.name = p.name)
    {ps ps' : List Property} (h : List.Forall₂ P ps ps') (seen : List String) :
    Option.Rel P (repeatedProperty?.go seen ps) (repeatedProperty?.go seen ps') := by
  induction h generalizing seen with
  | nil => exact .none
  | cons hp _ ih =>
    rw [repeatedProperty?.go, repeatedProperty?.go, hname _ _ hp]
    split_ifs
    · exact .some hp
    · exact ih _

/-- The checks of a record's head come before its members are resolved. -/
theorem elements_eq (scope : Scope) (r : Record) : r.elements scope =
    if r.typeParameters = [] then
      match r.repeatedProperty? with
      | none => (r.properties.mapM (resolveProperty scope r.name)).map fun members =>
        [objectElement r.name members, listElement r.name]
      | some p => .error (.duplicateProperty r.name p.name p.location)
    else .error (.typeParameters r.name r.typeParameters r.location) := by
  by_cases hparameters : r.typeParameters = []
  · rw [elements, if_pos hparameters, if_neg (not_not_intro hparameters)]
    cases r.repeatedProperty? with
    | some p => rfl
    | none => cases r.properties.mapM (resolveProperty scope r.name) <;> rfl
  · rw [elements, if_neg hparameters, if_pos hparameters]
    rfl

/-- Records whose properties are resolved alike have the same elements, or errors alike. -/
theorem alike_elements {scope : Scope} {r r' : Record} (hname : r'.name = r.name)
    (hparameters : r'.typeParameters = r.typeParameters)
    (hproperties : List.Forall₂ P r.properties r'.properties)
    (hnames : ∀ p p', P p p' → p'.name = p.name)
    (hresolved : ∀ p p', P p p' → AlikeOutcome forget AlikeMember
      (resolveProperty scope r.name p) (resolveProperty scope r.name p'))
    (hrepeated : ∀ p p', P p p' → forget (.duplicateProperty r.name p.name p'.location) =
      forget (.duplicateProperty r.name p.name p.location))
    (htypeParameters : forget (.typeParameters r.name r.typeParameters r'.location) =
      forget (.typeParameters r.name r.typeParameters r.location)) :
    AlikeOutcome forget Eq (r.elements scope) (r'.elements scope) := by
  rw [elements_eq, elements_eq, hparameters, hname]
  split_ifs
  · have hrel : Option.Rel P r.repeatedProperty? r'.repeatedProperty? :=
      repeatedProperty?_alike hnames hproperties []
    generalize r.repeatedProperty? = p, r'.repeatedProperty? = p' at hrel ⊢
    cases hrel with
    | none =>
      refine (AlikeOutcome.mapM hproperties hresolved).map fun ms ms' hms => ?_
      rw [objectElement, objectElement, memberRules_eq hms]
    | some hp =>
      dsimp only
      rw [hnames _ _ hp]
      exact .error (hrepeated _ _ hp)
  · exact .error htypeParameters

end Record

/-! ## Grammars -/

def GrammarError.forget (forget : CompileError → CompileError) : GrammarError → GrammarError
  | compile e => .compile (forget e)
  | render e => .render e

namespace Schema

variable {forget : CompileError → CompileError} {s s' : Schema}

section Names

variable {D : Declaration → Declaration → Prop}
  (h : List.Forall₂ D s.declarations s'.declarations)
include h

theorem recordNames_eq_of_forall₂
    (hD : ∀ d d', D d d' → d'.record?.map Record.name = d.record?.map Record.name) :
    s'.recordNames = s.recordNames := by
  rw [recordNames, recordNames, records, records, List.map_filterMap, List.map_filterMap]
  exact filterMap_eq_of_forall₂ h hD

theorem enumerationNames_eq_of_forall₂
    (hD : ∀ d d', D d d' → d'.enumeration?.map Enumeration.name =
      d.enumeration?.map Enumeration.name) : s'.enumerationNames = s.enumerationNames := by
  rw [enumerationNames, enumerationNames, enumerations, enumerations, List.map_filterMap,
    List.map_filterMap]
  exact filterMap_eq_of_forall₂ h hD

end Names

theorem listed_eq_of_recordNames (h : s'.recordNames = s.recordNames) (lists : ListElements)
    (es : List Element) : s'.listed lists es = s.listed lists es := by
  have hlistNames : s'.listNames = s.listNames := by rw [listNames, h, listNames]
  cases lists with
  | all => rfl
  | referenced =>
    rw [listed, listed, dropUnusedLists, dropUnusedLists, usedNames, usedNames, hlistNames]

section Grammar

variable (hrecordNames : s'.recordNames = s.recordNames)
  (helements : AlikeOutcome forget (List.Forall₂ Eq) (s.declarations.mapM (·.elements s.scope))
    (s'.declarations.mapM (·.elements s'.scope)))
include hrecordNames helements

/-- The grammar depends on the elements of the declarations and on the names of the records. -/
theorem alike_grammar (root : String) (lists : ListElements) :
    AlikeOutcome forget Eq (s.grammar root lists) (s'.grammar root lists) := by
  cases hp : s.declarations.mapM (·.elements s.scope) with
  | error e =>
    rw [hp] at helements
    obtain ⟨e', hp', he⟩ := helements.exists_of_error
    rw [grammar_of_error hp, grammar_of_error hp']
    exact .error he
  | ok produced =>
    rw [hp] at helements
    obtain ⟨produced', hp', hproduced⟩ := helements.exists_of_ok
    rw [List.forall₂_eq_eq_eq] at hproduced
    subst hproduced
    rw [grammar_of_produced hp, grammar_of_produced hp', hrecordNames]
    simp only [listed_eq_of_recordNames hrecordNames]
    split_ifs
    · exact .ok rfl
    · exact .error rfl
    · exact .error rfl

theorem grammarText_forget_eq (root : String) (lists : ListElements) :
    (s'.grammarText root lists).mapError (GrammarError.forget forget) =
      (s.grammarText root lists).mapError (GrammarError.forget forget) := by
  have hgrammar := alike_grammar hrecordNames helements root lists
  rw [grammarText, grammarText]
  cases hg : s.grammar root lists with
  | error e =>
    rw [hg] at hgrammar
    obtain ⟨e', hg', he⟩ := hgrammar.exists_of_error
    rw [hg']
    change Except.error (GrammarError.compile (forget e')) = .error (.compile (forget e))
    rw [he]
  | ok g =>
    rw [hg] at hgrammar
    obtain ⟨g', hg', rfl⟩ := hgrammar.exists_of_ok
    rw [hg']

end Grammar

end Schema

end SchemaGrammar
