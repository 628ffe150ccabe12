import SchemaGrammar.Proofs.AlikeOutcomes

/-!
# Schemas that differ in their types

Two schemas are retyped by a relation of types if they have the same declarations but for the types
of properties, and those are related one by one. They have the same grammars if related types stand
for the same; where related types may also stand for nothing, one and the other, they have the same
errors but for the spellings that are named.
-/
namespace SchemaGrammar

variable {R R' : TypeExpr → TypeExpr → Prop}

structure Property.Retyped (R : TypeExpr → TypeExpr → Prop) (p p' : Property) : Prop where
  name_eq : p'.name = p.name
  type : R p.type p'.type
  location_eq : p'.location = p.location

structure Record.Retyped (R : TypeExpr → TypeExpr → Prop) (r r' : Record) : Prop where
  name_eq : r'.name = r.name
  properties : List.Forall₂ (Property.Retyped R) r.properties r'.properties
  typeParameters_eq : r'.typeParameters = r.typeParameters
  location_eq : r'.location = r.location

inductive Declaration.Retyped (R : TypeExpr → TypeExpr → Prop) : Declaration → Declaration → Prop
  | record {r r' : Record} (h : r.Retyped R r') : Retyped R (.record r) (.record r')
  | enumeration (e : Enumeration) : Retyped R (.enumeration e) (.enumeration e)
  | other (o : OtherDeclaration) : Retyped R (.other o) (.other o)

def Schema.Retyped (R : TypeExpr → TypeExpr → Prop) (s s' : Schema) : Prop :=
  List.Forall₂ (Declaration.Retyped R) s.declarations s'.declarations

theorem Property.retyped_eq : Property.Retyped Eq = Eq := by
  funext p p'
  refine propext ⟨fun h => ?_, ?_⟩
  · obtain ⟨name, type, location⟩ := p
    obtain ⟨rfl, rfl, rfl⟩ := h
    rfl
  · rintro rfl
    exact ⟨rfl, rfl, rfl⟩

theorem Record.retyped_eq : Record.Retyped Eq = Eq := by
  funext r r'
  refine propext ⟨fun h => ?_, ?_⟩
  · obtain ⟨name, properties, parameters, location⟩ := r
    obtain ⟨rfl, hproperties, rfl, rfl⟩ := h
    rw [Property.retyped_eq, List.forall₂_eq_eq_eq] at hproperties
    cases hproperties
    rfl
  · rintro rfl
    exact ⟨rfl, by rw [Property.retyped_eq, List.forall₂_eq_eq_eq], rfl, rfl⟩

theorem Declaration.retyped_eq : Declaration.Retyped Eq = Eq := by
  funext d d'
  refine propext ⟨fun h => ?_, ?_⟩
  · cases h with
    | record h =>
      rw [Record.retyped_eq] at h
      rw [h]
    | enumeration e => rfl
    | other o => rfl
  · rintro rfl
    cases d with
    | record r => exact .record (by rw [Record.retyped_eq])
    | enumeration e => exact .enumeration e
    | other o => exact .other o

/-- Schemas whose types are the same, too, are the same. -/
theorem Schema.retyped_eq : Schema.Retyped Eq = Eq := by
  funext s s'
  obtain ⟨ds⟩ := s
  obtain ⟨ds'⟩ := s'
  rw [Retyped, Declaration.retyped_eq, List.forall₂_eq_eq_eq, Schema.mk.injEq]

/-! ## The types of a schema -/

def Declaration.types : Declaration → List TypeExpr
  | .record r => r.properties.map Property.type
  | _ => []

def Schema.types (s : Schema) : List TypeExpr := s.declarations.flatMap Declaration.types

theorem Property.retyped_self_iff {p : Property} : p.Retyped R p ↔ R p.type p.type :=
  ⟨Retyped.type, fun h => ⟨rfl, h, rfl⟩⟩

theorem Declaration.retyped_self_iff {d : Declaration} :
    d.Retyped R d ↔ ∀ t ∈ d.types, R t t := by
  cases d with
  | record r =>
    simp only [types, List.forall_mem_map, ← Property.retyped_self_iff, ← List.forall₂_same]
    constructor
    · rintro ⟨h⟩
      exact h.properties
    · exact fun h => .record ⟨rfl, h, rfl, rfl⟩
  | enumeration e => exact ⟨fun _ => nofun, fun _ => .enumeration e⟩
  | other o => exact ⟨fun _ => nofun, fun _ => .other o⟩

/-- A schema is retyped to itself if each of its types is related to itself. -/
theorem Schema.retyped_self_iff {s : Schema} : s.Retyped R s ↔ ∀ t ∈ s.types, R t t := by
  simp only [Retyped, List.forall₂_same, Declaration.retyped_self_iff, types, List.mem_flatMap,
    forall_exists_index, and_imp]
  exact ⟨fun h t d hd ht => h d hd t ht, fun h d hd t ht => h t d hd ht⟩

/-! ## Relations of types -/

theorem Schema.Retyped.imp {s s' : Schema} (h : s.Retyped R s') (hR : ∀ t t', R t t' → R' t t') :
    s.Retyped R' s' := by
  refine List.Forall₂.imp (fun d d' hd => ?_) h
  cases hd with
  | record hr =>
    have hproperties : List.Forall₂ (Property.Retyped R') _ _ :=
      hr.properties.imp fun _ _ hp => ⟨hp.name_eq, hR _ _ hp.type, hp.location_eq⟩
    exact .record ⟨hr.name_eq, hproperties, hr.typeParameters_eq, hr.location_eq⟩
  | enumeration e => exact .enumeration e
  | other o => exact .other o

theorem Declaration.exists_retyped {d : Declaration} (h : ∀ t ∈ d.types, ∃ t', R t t') :
    ∃ d', d.Retyped R d' := by
  cases d with
  | record r =>
    have hproperties : ∀ p ∈ r.properties, ∃ p', p.Retyped R p' := by
      intro p hp
      obtain ⟨t', ht'⟩ := h p.type (List.mem_map_of_mem hp)
      exact ⟨⟨p.name, t', p.location⟩, rfl, ht', rfl⟩
    obtain ⟨ps, hps⟩ := exists_forall₂ hproperties
    exact ⟨.record ⟨r.name, ps, r.typeParameters, r.location⟩, .record ⟨rfl, hps, rfl, rfl⟩⟩
  | enumeration e => exact ⟨_, .enumeration e⟩
  | other o => exact ⟨_, .other o⟩

/-- A schema can be retyped if each of its types is related to another. -/
theorem Schema.exists_retyped {s : Schema} (h : ∀ t ∈ s.types, ∃ t', R t t') :
    ∃ s', s.Retyped R s' := by
  have hdeclarations : ∀ d ∈ s.declarations, ∃ d', d.Retyped R d' := fun d hd =>
    Declaration.exists_retyped fun t ht => h t (List.mem_flatMap.mpr ⟨d, hd, ht⟩)
  obtain ⟨ds, hds⟩ := exists_forall₂ hdeclarations
  exact ⟨⟨ds⟩, hds⟩

/-! ## Grammars -/

def CompileError.unspelled : CompileError → CompileError
  | unresolvedType record property _ location => unresolvedType record property "" location
  | e => e

theorem CompileError.unspelled_eq_iff {e e' : CompileError} : e'.unspelled = e.unspelled ↔
    e' = e ∨ ∃ record property spelling spelling' location,
      e = unresolvedType record property spelling location ∧
        e' = unresolvedType record property spelling' location := by
  cases e <;> cases e' <;> simp [unspelled, eq_comm]
  tauto

/-- Two types stand for the same, or some spelling of each stands for nothing. -/
inductive Scope.ResolvesAlike (scope : Scope) (t t' : TypeExpr) : Prop
  | same : scope.slot? t' = scope.slot? t → ResolvesAlike scope t t'
  | unresolved {spelling spelling'} : scope.slot? t = .error spelling →
      scope.slot? t' = .error spelling' → ResolvesAlike scope t t'

section ResolvesAlike

variable {scope : Scope}

theorem Property.Retyped.resolveProperty {p p' : Property} (h : p.Retyped scope.ResolvesAlike p')
    (record : String) : AlikeOutcome CompileError.unspelled Record.AlikeMember
      (Record.resolveProperty scope record p) (Record.resolveProperty scope record p') := by
  rw [Record.resolveProperty, Record.resolveProperty, h.name_eq, h.location_eq]
  cases h.type with
  | same heq =>
    rw [heq]
    cases scope.slot? p.type with
    | ok t => exact .ok ⟨h.name_eq, rfl⟩
    | error spelling => exact .error rfl
  | unresolved ht ht' =>
    rw [ht, ht']
    exact .error rfl

theorem Declaration.Retyped.elements {d d' : Declaration} (h : d.Retyped scope.ResolvesAlike d') :
    AlikeOutcome CompileError.unspelled Eq (d.elements scope) (d'.elements scope) := by
  cases h with
  | @record r r' hr =>
    exact Record.alike_elements hr.name_eq hr.typeParameters_eq hr.properties
      (fun _ _ hp => hp.name_eq) (fun _ _ hp => hp.resolveProperty r.name)
      (fun _ _ hp => by rw [hp.location_eq]) (by rw [hr.location_eq])
  | enumeration e => exact .refl _
  | other o => exact .refl _

end ResolvesAlike

namespace Schema.Retyped

variable {s s' : Schema}

theorem recordNames_eq (h : s.Retyped R s') : s'.recordNames = s.recordNames := by
  refine recordNames_eq_of_forall₂ h fun d d' hd => ?_
  cases hd with
  | record hr => exact congrArg some hr.name_eq
  | _ => rfl

theorem enumerationNames_eq (h : s.Retyped R s') : s'.enumerationNames = s.enumerationNames := by
  refine enumerationNames_eq_of_forall₂ h fun d d' hd => ?_
  cases hd <;> rfl

theorem scope_eq (h : s.Retyped R s') : s'.scope = s.scope := by
  rw [scope, h.recordNames_eq, h.enumerationNames_eq, scope]

/-- Schemas whose types are resolved alike have the same grammar text, or the same error but for the
spelling that it names. -/
theorem grammarText_eq (h : s.Retyped s.scope.ResolvesAlike s') (root : String)
    (lists : ListElements) : s'.grammarText root lists = s.grammarText root lists ∨
      ∃ record property spelling spelling' location, s.grammarText root lists =
          .error (.compile (.unresolvedType record property spelling location)) ∧
        s'.grammarText root lists =
          .error (.compile (.unresolvedType record property spelling' location)) := by
  have helements : AlikeOutcome CompileError.unspelled (List.Forall₂ Eq)
      (s.declarations.mapM (·.elements s.scope)) (s'.declarations.mapM (·.elements s'.scope)) := by
    rw [h.scope_eq]
    exact .mapM h fun d d' hd => hd.elements
  have hforget := grammarText_forget_eq h.recordNames_eq helements root lists
  obtain hsame | ⟨e, e', he, he', hsame⟩ := mapError_eq_mapError_iff.mp hforget
  · exact .inl hsame
  · cases e with
    | compile c =>
      cases e' with
      | compile c' =>
        obtain rfl | ⟨record, property, spelling, spelling', location, rfl, rfl⟩ :=
          CompileError.unspelled_eq_iff.mp (GrammarError.compile.inj hsame)
        · exact .inl (he'.trans he.symm)
        · exact .inr ⟨record, property, spelling, spelling', location, he, he'⟩
      | render r' => cases hsame
    | render r =>
      cases e' with
      | compile c' => cases hsame
      | render r' =>
        cases hsame
        exact .inl (he'.trans he.symm)

end Schema.Retyped

end SchemaGrammar
