import SchemaGrammar.Proofs.AlikeOutcomes

/-!
# The grammar does not depend on locations

Schemas that are the same but for locations have the same grammars, or the same errors but for the
places these are reported at. How the locations are related is a parameter.
-/
namespace SchemaGrammar

variable {L : Option Location → Option Location → Prop}

structure Property.Alike (L : Option Location → Option Location → Prop) (p p' : Property) :
    Prop where
  name : p'.name = p.name
  type : p'.type = p.type
  location : L p.location p'.location

structure Record.Alike (L : Option Location → Option Location → Prop) (r r' : Record) : Prop where
  name : r'.name = r.name
  properties : List.Forall₂ (Property.Alike L) r.properties r'.properties
  typeParameters : r'.typeParameters = r.typeParameters
  location : L r.location r'.location

structure Enumeration.Alike (L : Option Location → Option Location → Prop)
    (e e' : Enumeration) : Prop where
  name : e'.name = e.name
  members : e'.members = e.members
  location : L e.location e'.location

/-- Declarations are the same but for their locations, which are related by `L`. -/
inductive Declaration.Alike (L : Option Location → Option Location → Prop) :
    Declaration → Declaration → Prop
  | record {r r'} : r.Alike L r' → Alike L (.record r) (.record r')
  | enumeration {e e'} : e.Alike L e' → Alike L (.enumeration e) (.enumeration e')
  | other {kind name l l'} : L l l' → Alike L (.other ⟨kind, name, l⟩) (.other ⟨kind, name, l'⟩)

def Schema.Alike (L : Option Location → Option Location → Prop) (s s' : Schema) : Prop :=
  List.Forall₂ (Declaration.Alike L) s.declarations s'.declarations

def CompileError.unlocated : CompileError → CompileError
  | unsupportedDeclaration kind name _ => .unsupportedDeclaration kind name none
  | typeParameters record parameters _ => .typeParameters record parameters none
  | duplicateProperty record property _ => .duplicateProperty record property none
  | unresolvedType record property spelling _ => .unresolvedType record property spelling none
  | emptyEnumeration enumeration _ => .emptyEnumeration enumeration none
  | memberWithoutValue enumeration member _ => .memberWithoutValue enumeration member none
  | unknownRoot root records => .unknownRoot root records
  | duplicateElements names => .duplicateElements names

namespace Record

theorem resolveProperty_alike {p p' : Property} (h : p.Alike L p') (scope : Scope)
    (record : String) :
    AlikeOutcome CompileError.unlocated AlikeMember (resolveProperty scope record p)
      (resolveProperty scope record p') := by
  rw [resolveProperty, resolveProperty, h.type, h.name]
  cases scope.slot? p.type with
  | error spelling => exact .error rfl
  | ok t => exact .ok ⟨h.name, rfl⟩

theorem Alike.elements {r r' : Record} (h : r.Alike L r') (scope : Scope) :
    AlikeOutcome CompileError.unlocated Eq (r.elements scope) (r'.elements scope) :=
  alike_elements h.name h.typeParameters h.properties (fun _ _ hp => hp.name)
    (fun _ _ hp => resolveProperty_alike hp scope r.name) (fun _ _ _ => rfl) rfl

end Record

theorem Enumeration.Alike.element {en en' : Enumeration} (h : en.Alike L en') :
    AlikeOutcome CompileError.unlocated Eq en.element en'.element := by
  have halternative (m : Member) :
      AlikeOutcome CompileError.unlocated Eq (en.alternative m) (en'.alternative m) := by
    rw [alternative, alternative, h.name]
    cases m.value with
    | none => exact .error rfl
    | some value => exact .ok rfl
  rw [Enumeration.element, Enumeration.element, h.members, h.name]
  cases en.members with
  | nil => exact .error rfl
  | cons first others =>
    have hothers : AlikeOutcome CompileError.unlocated (List.Forall₂ Eq)
        (others.mapM en.alternative) (others.mapM en'.alternative) := by
      refine .mapM (List.forall₂_same.mpr fun _ _ => rfl) fun m m' hm => ?_
      subst hm
      exact halternative m
    refine (halternative first).bind fun rule _ hrule => hothers.bind fun rules _ hrules => ?_
    rw [List.forall₂_eq_eq_eq] at hrules
    rw [hrule, hrules]
    exact .ok rfl

theorem Declaration.Alike.elements {d d' : Declaration} (h : d.Alike L d') (scope : Scope) :
    AlikeOutcome CompileError.unlocated Eq (d.elements scope) (d'.elements scope) := by
  cases h with
  | record hr => exact hr.elements scope
  | enumeration hen => exact hen.element.map fun _ _ he => congrArg ([·]) he
  | other => exact .error rfl

def GrammarError.unlocated : GrammarError → GrammarError
  | compile e => .compile e.unlocated
  | render e => .render e

namespace Schema.Alike

variable {s s' : Schema}

theorem refl (hL : ∀ l, L l l) : s.Alike L s := by
  refine List.forall₂_same.mpr fun d _ => ?_
  cases d with
  | record r => exact .record ⟨rfl, List.forall₂_same.mpr fun p _ => ⟨rfl, rfl, hL _⟩, rfl, hL _⟩
  | enumeration e => exact .enumeration ⟨rfl, rfl, hL _⟩
  | other o => exact .other (hL _)

/-- Alike declarations are records, enumerations or neither together. -/
theorem isData (h : s.Alike L s') (hdata : ∀ d ∈ s.declarations, d.IsData) :
    ∀ d ∈ s'.declarations, d.IsData := by
  obtain ⟨ds⟩ := s
  obtain ⟨ds'⟩ := s'
  change List.Forall₂ (Declaration.Alike L) ds ds' at h
  change ∀ d ∈ ds', d.IsData
  induction h with
  | nil => exact List.forall_mem_nil _
  | cons hd _ ih =>
    obtain ⟨hfirst, hothers⟩ := List.forall_mem_cons.mp hdata
    refine List.forall_mem_cons.mpr ⟨?_, ih hothers⟩
    cases hd with
    | other => exact hfirst.elim
    | _ => trivial

theorem imp {L' : Option Location → Option Location → Prop} (h : s.Alike L s')
    (hL : ∀ l l', L l l' → L' l l') : s.Alike L' s' := by
  refine List.Forall₂.imp (fun d d' hd => ?_) h
  cases hd with
  | record hr =>
    have hproperties : List.Forall₂ (Property.Alike L') _ _ :=
      hr.properties.imp fun _ _ hp => ⟨hp.name, hp.type, hL _ _ hp.location⟩
    exact .record ⟨hr.name, hproperties, hr.typeParameters, hL _ _ hr.location⟩
  | enumeration he => exact .enumeration ⟨he.name, he.members, hL _ _ he.location⟩
  | other hl => exact .other (hL _ _ hl)

theorem append {t t' : Schema} (h : s.Alike L s') (ht : t.Alike L t') :
    (s ++ t).Alike L (s' ++ t') := List.rel_append h ht

theorem recordNames_eq (h : s.Alike L s') : s'.recordNames = s.recordNames := by
  refine recordNames_eq_of_forall₂ h fun d d' hd => ?_
  cases hd with
  | record hr => exact congrArg some hr.name
  | _ => rfl

theorem enumerationNames_eq (h : s.Alike L s') : s'.enumerationNames = s.enumerationNames := by
  refine enumerationNames_eq_of_forall₂ h fun d d' hd => ?_
  cases hd with
  | enumeration he => exact congrArg some he.name
  | _ => rfl

theorem scope_eq (h : s.Alike L s') : s'.scope = s.scope := by
  rw [scope, h.recordNames_eq, h.enumerationNames_eq, scope]

/-- Schemas that are the same but for locations have the same grammar text, or the same error but
for its place. -/
theorem grammarText_eq (h : s.Alike L s') (root : String) (lists : ListElements) :
    (s'.grammarText root lists).mapError GrammarError.unlocated =
      (s.grammarText root lists).mapError GrammarError.unlocated := by
  have hforget : GrammarError.unlocated = GrammarError.forget CompileError.unlocated := by
    funext e
    cases e <;> rfl
  have helements : AlikeOutcome CompileError.unlocated (List.Forall₂ Eq)
      (s.declarations.mapM (·.elements s.scope)) (s'.declarations.mapM (·.elements s'.scope)) := by
    rw [h.scope_eq]
    exact .mapM h fun d d' hd => hd.elements s.scope
  rw [hforget]
  exact grammarText_forget_eq h.recordNames_eq helements root lists

theorem grammarText_eq_ok (h : s.Alike L s') {root : String} {lists : ListElements} {text : String}
    (ht : s.grammarText root lists = .ok text) : s'.grammarText root lists = .ok text := by
  have hsame := h.grammarText_eq root lists
  rw [ht] at hsame
  exact mapError_eq_ok_iff.mp hsame

end Schema.Alike

end SchemaGrammar
