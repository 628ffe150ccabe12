/-!
# What is left of a list

Readers take what they want from the front of a list and leave a rest that is no longer than the
list, so that readers that call one another end.
-/
namespace SchemaGrammar

variable {α : Type}

theorem length_nil_le : ([] : List α).length ≤ ([] : List α).length := Nat.le_refl _

theorem length_cons_le (a : α) (r : List α) : (a :: r).length ≤ (a :: r).length := Nat.le_refl _

theorem length_le_cons (a : α) (r : List α) : r.length ≤ (a :: r).length := Nat.le_succ _

theorem length_le_pred_cons (a : α) (r : List α) : r.length ≤ (a :: r).length - 1 := Nat.le_refl _

theorem length_le_cons_of_le_pred (a : α) {r r₁ : List α} (h : r₁.length ≤ r.length - 1) :
    r₁.length ≤ (a :: r).length :=
  Nat.le_trans h (Nat.le_trans (Nat.sub_le _ _) (Nat.le_succ _))

theorem length_le_cons_of_le (a : α) {r r₁ : List α} (h : r₁.length ≤ r.length) :
    r₁.length ≤ (a :: r).length :=
  Nat.le_trans h (Nat.le_succ _)

theorem length_le_cons_of_le_tail (a : α) {r r₁ : List α} (h : r₁.length ≤ r.tail.length) :
    r₁.length ≤ (a :: r).length := by
  rw [List.length_tail] at h
  exact length_le_cons_of_le_pred a h

theorem length_drop_le_cons (a : α) (r : List α) (n : Nat) :
    (r.drop n).length ≤ (a :: r).length := by
  rw [List.length_drop]
  exact Nat.le_trans (Nat.sub_le _ _) (Nat.le_succ _)

theorem length_drop_tail_le (l : List α) (n : Nat) :
    (l.tail.drop (n - 1)).length ≤ l.length - 1 := by
  rw [List.length_drop, List.length_tail]
  exact Nat.sub_le _ _

end SchemaGrammar
