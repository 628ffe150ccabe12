import SchemaGrammar.Proofs.Productions

/-!
# What is wrong with a declaration

The faults of records and enumerations, said of their parts: which of several comes first, and at
which property, spelling or member. Making the elements of a declaration fails exactly with its
fault.
-/
namespace SchemaGrammar

/-- Whether `e` is a fault of a member of a list whose members before it have none. -/
def FirstFault {α ε : Type} (fault : α → ε → Prop) (as : List α) (e : ε) : Prop :=
  ∃ before a after, as = before ++ a :: after ∧ (∀ x ∈ before, ∀ e, ¬ fault x e) ∧ fault a e

section FirstFault

variable {α ε : Type} {fault : α → ε → Prop} {a : α} {as : List α} {e : ε}

theorem not_firstFault_nil : ¬ FirstFault fault [] e := by
  rintro ⟨before, a, after, h, -⟩
  simp at h

theorem firstFault_cons :
    FirstFault fault (a :: as) e ↔ fault a e ∨ (∀ e, ¬ fault a e) ∧ FirstFault fault as e := by
  constructor
  · rintro ⟨before, x, after, h, hbefore, hx⟩
    cases before with
    | nil =>
      obtain ⟨rfl, rfl⟩ := List.cons.inj h
      exact .inl hx
    | cons y before =>
      obtain ⟨rfl, rfl⟩ := List.cons.inj h
      rw [List.forall_mem_cons] at hbefore
      exact .inr ⟨hbefore.1, before, x, after, rfl, hbefore.2, hx⟩
  · rintro (ha | ⟨ha, before, x, after, rfl, hbefore, hx⟩)
    · exact ⟨[], a, as, rfl, by simp, ha⟩
    · exact ⟨a :: before, x, after, rfl, List.forall_mem_cons.mpr ⟨ha, hbefore⟩, hx⟩

/-- No member is the first with a fault exactly if none has one. -/
theorem forall_not_firstFault :
    (∀ e, ¬ FirstFault fault as e) ↔ ∀ a ∈ as, ∀ e, ¬ fault a e := by
  induction as with
  | nil => simp [not_firstFault_nil]
  | cons a as ih =>
    simp only [firstFault_cons, List.forall_mem_cons, ← ih, not_or, not_and, forall_and]
    tauto

theorem forall_ne_error_iff {β : Type} {x : Except ε β} : (∀ e, x ≠ .error e) ↔ ∃ b, x = .ok b := by
  cases x <;> simp

theorem mapM_eq_error_iff {β : Type} {f : α → Except ε β} :
    as.mapM f = .error e ↔ FirstFault (fun a e => f a = .error e) as e := by
  induction as with
  | nil => simp [pure, Except.pure, not_firstFault_nil]
  | cons a as ih =>
    rw [List.mapM_cons, firstFault_cons, ← ih]
    cases f a with
    | error e' => simp [bind, Except.bind]
    | ok b => cases as.mapM f <;> simp [bind, Except.bind, pure, Except.pure]

/-- Where each member has at most one fault, the fault tells which member it is of. -/
theorem firstFault_and_eq_iff {bad : α → Prop} {report : α → ε} :
    FirstFault (fun a e => bad a ∧ e = report a) as e ↔
      ∃ before a after, as = before ++ a :: after ∧ (∀ x ∈ before, ¬ bad x) ∧ bad a ∧
        e = report a := by
  simp [FirstFault]

end FirstFault

/-! ## What is wrong with a declaration -/

/-- Whether some resolution step claims a spelling, whatever the order of the steps. -/
def Scope.Claims (scope : Scope) (spelling : String) : Prop :=
  ∃ step : ResolutionStep, ∃ item, step.claim scope (Spelling.trim spelling) = some item

def Schema.Claims (s : Schema) (spelling : String) : Prop :=
  ∃ step : ResolutionStep, ∃ item, step.claim s.scope (Spelling.trim spelling) = some item

theorem Schema.claims_iff {s : Schema} {spelling : String} :
    s.Claims spelling ↔ s.scope.Claims spelling := Iff.rfl

/-- The first spelling of a property that no step claims. -/
def Property.Fault (s : Schema) (record : String) (p : Property) : CompileError → Prop :=
  FirstFault (fun spelling e => ¬ s.Claims spelling ∧
    e = .unresolvedType record p.name spelling p.location) p.type.spellings

/-- What comes first: parameters, then a property with the name of one before, then a type. -/
inductive Record.Fault (s : Schema) (r : Record) : CompileError → Prop
  | typeParameters : r.typeParameters ≠ [] →
      Fault s r (.typeParameters r.name r.typeParameters r.location)
  | duplicateProperty {before p after} : r.typeParameters = [] →
      r.properties = before ++ p :: after → (before.map Property.name).Nodup →
      p.name ∈ before.map Property.name → Fault s r (.duplicateProperty r.name p.name p.location)
  | unresolvedType {e} : r.typeParameters = [] → (r.properties.map Property.name).Nodup →
      FirstFault (Property.Fault s r.name) r.properties e → Fault s r e

inductive Enumeration.Fault (en : Enumeration) : CompileError → Prop
  | empty : en.members = [] → Fault en (.emptyEnumeration en.name en.location)
  | memberWithoutValue {e} : FirstFault (fun m e => m.value = none ∧
      e = .memberWithoutValue en.name m.name en.location) en.members e → Fault en e

def Declaration.Fault (s : Schema) : Declaration → CompileError → Prop
  | .record r, e => r.Fault s e
  | .enumeration en, e => en.Fault e
  | .other o, e => e = .unsupportedDeclaration o.kind o.name o.location

/-! ## Faults are what compilation reports -/

namespace Scope

variable {scope : Scope}

theorem item?_eq_none_iff {spelling : String} :
    scope.item? spelling = none ↔ ¬ scope.Claims spelling := by
  have horder : ∀ step, step ∈ ResolutionStep.order := by
    intro step
    cases step <;> simp [ResolutionStep.order]
  rw [item?, List.findSome?_eq_none_iff]
  simp [Claims, horder, Option.eq_none_iff_forall_ne_some]

theorem items_eq_error_iff {spellings : List String} {spelling : String} :
    scope.items spellings = .error spelling ↔
      FirstFault (fun x y => ¬ scope.Claims x ∧ y = x) spellings spelling := by
  induction spellings with
  | nil => simp [items, not_firstFault_nil]
  | cons first others ih =>
    rw [items, firstFault_cons, ← ih]
    cases hi : scope.item? first with
    | none => simp [item?_eq_none_iff.mp hi, eq_comm]
    | some item =>
      have hclaims : scope.Claims first :=
        not_not.mp fun h => by simp [item?_eq_none_iff.mpr h] at hi
      cases scope.items others <;> simp [hclaims, Except.map]

theorem slot?_eq_error_iff {t : TypeExpr} {spelling : String} :
    scope.slot? t = .error spelling ↔
      FirstFault (fun x y => ¬ scope.Claims x ∧ y = x) t.spellings spelling := by
  rw [← items_eq_error_iff, slot?, TypeExpr.spellings, items]
  cases scope.item? t.first with
  | none => simp
  | some first => cases scope.items t.others <;> simp [Except.map]

end Scope

namespace Record

theorem resolveProperty_eq_error_iff {scope : Scope} {record : String} {p : Property}
    {e : CompileError} : resolveProperty scope record p = .error e ↔
      FirstFault (fun spelling e => ¬ scope.Claims spelling ∧
        e = .unresolvedType record p.name spelling p.location) p.type.spellings e := by
  have hfirst : FirstFault (fun spelling e => ¬ scope.Claims spelling ∧
      e = .unresolvedType record p.name spelling p.location) p.type.spellings e ↔
      ∃ spelling, scope.slot? p.type = .error spelling ∧
        e = .unresolvedType record p.name spelling p.location := by
    simp only [Scope.slot?_eq_error_iff, firstFault_and_eq_iff]
    constructor
    · rintro ⟨before, spelling, after, hsplit, hbefore, hbad, rfl⟩
      exact ⟨spelling, ⟨before, spelling, after, hsplit, hbefore, hbad, rfl⟩, rfl⟩
    · rintro ⟨_, ⟨before, spelling, after, hsplit, hbefore, hbad, rfl⟩, rfl⟩
      exact ⟨before, _, after, hsplit, hbefore, hbad, rfl⟩
  rw [hfirst, resolveProperty]
  cases scope.slot? p.type <;> simp [eq_comm]

theorem resolveProperty_eq_error_iff_fault {s : Schema} {record : String} {p : Property}
    {e : CompileError} : resolveProperty s.scope record p = .error e ↔ p.Fault s record e :=
  resolveProperty_eq_error_iff

/-- A name put before the seen ones counts as one read before. -/
theorem perm_names_cons (p : Property) (before : List Property) (seen : List String) :
    (before.map Property.name ++ p.name :: seen).Perm
      ((p :: before).map Property.name ++ seen) := List.perm_middle

theorem repeatedProperty?_go_eq_none_iff {seen : List String} (hseen : seen.Nodup)
    {ps : List Property} :
    repeatedProperty?.go seen ps = none ↔ (ps.map Property.name ++ seen).Nodup := by
  induction ps generalizing seen with
  | nil => simp [repeatedProperty?.go, hseen]
  | cons p ps ih =>
    rw [repeatedProperty?.go]
    split
    · next hp => simp [hp]
    · next hp => rw [ih (List.nodup_cons.mpr ⟨hp, hseen⟩), (perm_names_cons p ps seen).nodup_iff]

theorem repeatedProperty?_go_eq_some_iff {seen : List String} (hseen : seen.Nodup)
    {ps : List Property} {p : Property} :
    repeatedProperty?.go seen ps = some p ↔ ∃ before after, ps = before ++ p :: after ∧
      (before.map Property.name ++ seen).Nodup ∧ p.name ∈ before.map Property.name ++ seen := by
  -- the names that were seen and those before the repeated one are the same in the end
  induction ps generalizing seen with
  | nil => simp [repeatedProperty?.go]
  | cons first ps ih =>
    rw [repeatedProperty?.go]
    split
    · next hfirst =>
      rw [Option.some.injEq]
      constructor
      · rintro rfl
        exact ⟨[], ps, rfl, hseen, hfirst⟩
      · rintro ⟨before, after, hsplit, hnodup, -⟩
        cases before with
        | nil => exact (List.cons.inj hsplit).1
        | cons x before =>
          obtain ⟨rfl, -⟩ := List.cons.inj hsplit
          simp [hfirst] at hnodup
    · next hfirst =>
      rw [ih (List.nodup_cons.mpr ⟨hfirst, hseen⟩)]
      constructor
      · rintro ⟨before, after, rfl, hnodup, hp⟩
        have hperm := perm_names_cons first before seen
        exact ⟨first :: before, after, rfl, hperm.nodup_iff.mp hnodup, hperm.mem_iff.mp hp⟩
      · rintro ⟨before, after, hsplit, hnodup, hp⟩
        cases before with
        | nil =>
          obtain ⟨rfl, rfl⟩ := List.cons.inj hsplit
          exact absurd hp hfirst
        | cons x before =>
          obtain ⟨rfl, rfl⟩ := List.cons.inj hsplit
          have hperm := perm_names_cons first before seen
          exact ⟨before, after, rfl, hperm.nodup_iff.mpr hnodup, hperm.mem_iff.mpr hp⟩

theorem repeatedProperty?_eq_none_iff {r : Record} :
    r.repeatedProperty? = none ↔ (r.properties.map Property.name).Nodup := by
  rw [repeatedProperty?, repeatedProperty?_go_eq_none_iff List.nodup_nil, List.append_nil]

theorem repeatedProperty?_eq_some_iff {r : Record} {p : Property} :
    r.repeatedProperty? = some p ↔ ∃ before after, r.properties = before ++ p :: after ∧
      (before.map Property.name).Nodup ∧ p.name ∈ before.map Property.name := by
  simp only [repeatedProperty?, repeatedProperty?_go_eq_some_iff List.nodup_nil, List.append_nil]

variable {s : Schema} {r : Record} {e : CompileError}

theorem fault_iff_or : r.Fault s e ↔
    r.typeParameters ≠ [] ∧ e = .typeParameters r.name r.typeParameters r.location ∨
    r.typeParameters = [] ∧
      ((∃ p, r.repeatedProperty? = some p ∧ e = .duplicateProperty r.name p.name p.location) ∨
        r.repeatedProperty? = none ∧ FirstFault (Property.Fault s r.name) r.properties e) := by
  simp only [repeatedProperty?_eq_some_iff, repeatedProperty?_eq_none_iff]
  constructor
  · intro h
    cases h with
    | typeParameters ht => exact .inl ⟨ht, rfl⟩
    | duplicateProperty ht hsplit hnodup hp =>
      exact .inr ⟨ht, .inl ⟨_, ⟨_, _, hsplit, hnodup, hp⟩, rfl⟩⟩
    | unresolvedType ht hnodup hfirst => exact .inr ⟨ht, .inr ⟨hnodup, hfirst⟩⟩
  · rintro (⟨ht, rfl⟩ | ⟨ht, ⟨p, ⟨before, after, hsplit, hnodup, hp⟩, rfl⟩ | ⟨hnodup, hfirst⟩⟩)
    · exact .typeParameters ht
    · exact .duplicateProperty ht hsplit hnodup hp
    · exact .unresolvedType ht hnodup hfirst

theorem elements_eq_error_iff : r.elements s.scope = .error e ↔ r.Fault s e := by
  have hmembers : FirstFault (Property.Fault s r.name) r.properties e ↔
      r.properties.mapM (resolveProperty s.scope r.name) = .error e := by
    simp only [mapM_eq_error_iff, resolveProperty_eq_error_iff_fault]
  rw [fault_iff_or, hmembers, elements]
  by_cases ht : r.typeParameters = []
  · cases hp : r.repeatedProperty? with
    | some p => simp [ht, bind, Except.bind, throw, throwThe, MonadExceptOf.throw, eq_comm]
    | none =>
      cases r.properties.mapM (resolveProperty s.scope r.name) <;>
        simp [ht, bind, Except.bind, pure, Except.pure]
  · simp [ht, bind, Except.bind, throw, throwThe, MonadExceptOf.throw, eq_comm]

theorem forall_not_fault_iff : (∀ e, ¬ r.Fault s e) ↔ r.typeParameters = [] ∧
    (r.properties.map Property.name).Nodup ∧
      ∀ p ∈ r.properties, ∀ spelling ∈ p.type.spellings, s.Claims spelling := by
  have htypes : (∀ p ∈ r.properties, ∀ spelling ∈ p.type.spellings, s.Claims spelling) ↔
      ∀ e, ¬ FirstFault (Property.Fault s r.name) r.properties e := by
    simp [forall_not_firstFault, Property.Fault]
  rw [htypes, ← repeatedProperty?_eq_none_iff]
  simp only [fault_iff_or]
  by_cases ht : r.typeParameters = []
  · cases r.repeatedProperty? <;> simp [ht]
  · simp [ht]

end Record

namespace Enumeration

variable {en : Enumeration} {e : CompileError}

theorem element_eq_error_iff : en.element = .error e ↔ en.Fault e := by
  have hvalue (m : Member) (e : CompileError) : en.alternative m = .error e ↔
      m.value = none ∧ e = .memberWithoutValue en.name m.name en.location := by
    unfold alternative
    cases m.value <;> simp [eq_comm]
  have hmembers : en.members.mapM en.alternative = .error e ↔ FirstFault (fun m e =>
      m.value = none ∧ e = .memberWithoutValue en.name m.name en.location) en.members e := by
    simp only [mapM_eq_error_iff, hvalue]
  have hfault : en.Fault e ↔ en.members = [] ∧ e = .emptyEnumeration en.name en.location ∨
      en.members.mapM en.alternative = .error e := by
    rw [hmembers]
    constructor
    · intro h
      cases h with
      | empty h => exact .inl ⟨h, rfl⟩
      | memberWithoutValue h => exact .inr h
    · rintro (⟨h, rfl⟩ | h)
      · exact .empty h
      · exact .memberWithoutValue h
  rw [hfault, element]
  cases en.members with
  | nil => simp [throw, throwThe, MonadExceptOf.throw, pure, Except.pure, eq_comm]
  | cons first others =>
    rw [List.mapM_cons]
    cases hfirst : en.alternative first with
    | error e' => simp [hfirst, bind, Except.bind]
    | ok rule =>
      cases hothers : others.mapM en.alternative <;>
        simp [hfirst, hothers, bind, Except.bind, pure, Except.pure]

theorem forall_not_fault_iff : (∀ e, ¬ en.Fault e) ↔
    en.members ≠ [] ∧ ∀ m ∈ en.members, ∃ value, m.value = some value := by
  have hvalues : (∀ m ∈ en.members, ∃ value, m.value = some value) ↔
      ∀ e, ¬ FirstFault (fun m e => m.value = none ∧
        e = CompileError.memberWithoutValue en.name m.name en.location) en.members e := by
    simp [forall_not_firstFault, Option.ne_none_iff_exists']
  rw [hvalues]
  constructor
  · intro h
    exact ⟨fun hm => h _ (.empty hm), fun e he => h e (.memberWithoutValue he)⟩
  · rintro ⟨hne, hfirst⟩ e h
    cases h with
    | empty h => exact hne h
    | memberWithoutValue h => exact hfirst e h

end Enumeration

end SchemaGrammar
