import SchemaGrammar.Proofs.Readings

/-!
# Schemas that resolve at least as much

If every spelling that resolves in one schema resolves alike in another, then each production has
the same element in both.
-/
namespace SchemaGrammar

/-- Every spelling that resolves in `s` resolves alike in `s'`. -/
def Schema.KeepsItems (s s' : Schema) : Prop :=
  ∀ spelling item, s.scope.item? spelling = some item → s'.scope.item? spelling = some item

namespace Schema.KeepsItems

variable {s s' : Schema} (h : s.KeepsItems s')
include h

theorem items_eq_ok {spellings : List String} {items : List ItemType}
    (hitems : s.scope.items spellings = .ok items) : s'.scope.items spellings = .ok items := by
  rw [Scope.items_eq_ok_iff] at hitems ⊢
  exact hitems.imp h

theorem slot?_eq_ok {t : TypeExpr} {slot : SlotType} (hslot : s.scope.slot? t = .ok slot) :
    s'.scope.slot? t = .ok slot := by
  unfold Scope.slot? at hslot ⊢
  cases hf : s.scope.item? t.first with
  | none => simp [hf] at hslot
  | some first =>
    cases ho : s.scope.items t.others with
    | error e => simp [hf, ho, Except.map] at hslot
    | ok others =>
      rw [hf, ho] at hslot
      rw [h _ _ hf, h.items_eq_ok ho]
      exact hslot

theorem resolveProperty_eq_ok {record : String} {p : Property} {m : Property × Rule}
    (hm : Record.resolveProperty s.scope record p = .ok m) :
    Record.resolveProperty s'.scope record p = .ok m := by
  unfold Record.resolveProperty at hm ⊢
  cases ht : s.scope.slot? p.type with
  | error spelling => simp [ht] at hm
  | ok slot =>
    rw [ht] at hm
    rw [h.slot?_eq_ok ht]
    exact hm

theorem yields {root : String} {p : Production} {e : Element} (hy : p.Yields s root e) :
    p.Yields s' root e := by
  cases p with
  | object r =>
    obtain ⟨ht, hp, members, hmembers, rfl⟩ := hy
    exact ⟨ht, hp, members, hmembers.imp fun _ _ hm => h.resolveProperty_eq_ok hm, rfl⟩
  | _ => exact hy

theorem elements_eq_ok {d : Declaration} {es : List Element}
    (hes : d.elements s.scope = .ok es) : d.elements s'.scope = .ok es := by
  -- the root has no influence on the elements of a declaration
  rw [Declaration.elements_eq_ok_iff ""] at hes ⊢
  exact ⟨hes.1, hes.2.imp fun _ _ hy => h.yields hy⟩

end Schema.KeepsItems

theorem Production.rightUnique_yields (s : Schema) (root : String) :
    Relator.RightUnique (Production.Yields s root) := by
  intro p e e' h h'
  cases p with
  | object r =>
    obtain ⟨-, -, members, hmembers, rfl⟩ := h
    obtain ⟨-, -, members', hmembers', rfl⟩ := h'
    have hunique : Relator.RightUnique fun p m =>
        Record.resolveProperty s.scope r.name p = .ok m := by
      intro p m m' hm hm'
      exact Except.ok.inj (hm.symm.trans hm')
    rw [hunique.forall₂ hmembers hmembers']
  | values en => exact Except.ok.inj (Eq.trans h.symm h')
  | _ => exact h.trans h'.symm

end SchemaGrammar
