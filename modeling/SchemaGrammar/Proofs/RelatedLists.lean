import Mathlib.Data.List.Forall2

/-!
# Lists related member by member

What follows for lists whose members are related one by one: each member has a partner, and what is
told of partners alike is told of the lists alike.
-/
namespace SchemaGrammar

variable {α β : Type}

theorem exists_forall₂ {R : α → β → Prop} {as : List α} (h : ∀ a ∈ as, ∃ b, R a b) :
    ∃ bs, List.Forall₂ R as bs := by
  induction as with
  | nil => exact ⟨[], .nil⟩
  | cons a as ih =>
    rw [List.forall_mem_cons] at h
    obtain ⟨b, hb⟩ := h.1
    obtain ⟨bs, hbs⟩ := ih h.2
    exact ⟨b :: bs, .cons hb hbs⟩

theorem exists_of_forall₂_of_mem {R : α → β → Prop} {as : List α} {bs : List β}
    (h : List.Forall₂ R as bs) {b : β} (hb : b ∈ bs) : ∃ a ∈ as, R a b := by
  obtain ⟨i, hi, rfl⟩ := List.mem_iff_getElem.mp hb
  have hi' : i < as.length := h.length_eq ▸ hi
  exact ⟨as[i], List.getElem_mem hi', h.get hi' hi⟩

/-- The partners of a split list split alike. -/
theorem exists_split_of_forall₂ {R : α → β → Prop} {before after : List α} {a : α} {bs : List β}
    (h : List.Forall₂ R (before ++ a :: after) bs) : ∃ before' b after',
      bs = before' ++ b :: after' ∧ List.Forall₂ R before before' ∧ R a b ∧
        List.Forall₂ R after after' := by
  induction before generalizing bs with
  | nil =>
    obtain ⟨b, after', ha, hafter, rfl⟩ := List.forall₂_cons_left_iff.mp h
    exact ⟨[], b, after', rfl, .nil, ha, hafter⟩
  | cons x before ih =>
    obtain ⟨y, bs, hx, hbs, rfl⟩ := List.forall₂_cons_left_iff.mp h
    obtain ⟨before', b, after', rfl, hbefore, ha, hafter⟩ := ih hbs
    exact ⟨y :: before', b, after', rfl, .cons hx hbefore, ha, hafter⟩

theorem mem_iff_of_forall₂ {f : α → Option β} {as : List α} {bs : List β}
    (h : List.Forall₂ (fun a b => f a = some b) as bs) {b : β} :
    b ∈ bs ↔ ∃ a ∈ as, f a = some b := by
  induction h with
  | nil => simp
  | cons ha _ ih => simp [ih, ha, eq_comm]

section

variable {R : α → α → Prop} {as as' : List α} (h : List.Forall₂ R as as')
include h

theorem map_eq_of_forall₂ {f : α → β} (hf : ∀ a a', R a a' → f a' = f a) :
    as'.map f = as.map f := by
  induction h with
  | nil => rfl
  | cons ha _ ih => rw [List.map_cons, List.map_cons, hf _ _ ha, ih]

theorem filterMap_eq_of_forall₂ {f : α → Option β} (hf : ∀ a a', R a a' → f a' = f a) :
    as'.filterMap f = as.filterMap f := by
  have hid (as : List α) : as.filterMap f = (as.map f).filterMap id := by
    rw [List.filterMap_map, Function.id_comp]
  rw [hid, hid, map_eq_of_forall₂ h hf]

end

end SchemaGrammar
