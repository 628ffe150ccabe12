import Mathlib.Data.List.TakeWhile
import Mathlib.Data.List.Basic
import SchemaGrammar.Source.Cursor

/-!
# Places in a text

The place after some characters is told by counting: their line ends give the line, and what follows
the last of these gives the column. A cursor that has moved over characters stands there.
-/
namespace SchemaGrammar.Source

namespace Position

/-- The place after the characters of a text that come before it. -/
def after (before : List Char) : Position where
  line := before.count '\n' + 1
  column := (before.reverse.takeWhile (· ≠ '\n')).length + 1

theorem after_concat (before : List Char) (c : Char) :
    after (before ++ [c]) = (after before).step c := by
  rw [step]
  split_ifs with hc
  · subst hc
    simp [after]
  · simp [after, hc]

/-- No two places of a text are the same. -/
theorem eq_nil_of_after_append_eq {before cs : List Char}
    (h : after (before ++ cs) = after before) : cs = [] := by
  simp only [after, List.count_append, mk.injEq] at h
  obtain ⟨hline, hcolumn⟩ := h
  have hmem : '\n' ∉ cs := by
    rw [← List.count_eq_zero]
    omega
  have htake : ∀ c ∈ cs.reverse, decide (c ≠ '\n') = true := by
    intro c hc
    rw [decide_eq_true_eq]
    rintro rfl
    exact hmem (List.mem_reverse.mp hc)
  rw [List.reverse_append, List.takeWhile_append_of_pos htake, List.length_append,
    List.length_reverse] at hcolumn
  exact List.eq_nil_of_length_eq_zero (by omega)

theorem eq_of_after_eq {before before' rest rest' : List Char}
    (h : before ++ rest = before' ++ rest') (hafter : after before = after before') :
    before = before' := by
  obtain ⟨cs, rfl, -⟩ | ⟨cs, rfl, -⟩ := List.append_eq_append_iff.mp h
  · rw [eq_nil_of_after_append_eq hafter.symm, List.append_nil]
  · rw [eq_nil_of_after_append_eq hafter, List.append_nil]

end Position

namespace Cursor

/-- The cursor of a text between characters and those that follow them. -/
def between (before rest : List Char) : Cursor := ⟨rest, before.length, Position.after before⟩

theorem start_eq_between (text : String) : start text = between [] text.toList := rfl

theorem advance_between (before rest : List Char) (c : Char) :
    (between before (c :: rest)).advance = between (before ++ [c]) rest := by
  simp only [between, advance, Position.after_concat, List.length_append, List.length_singleton]

theorem forward_add (m n : Nat) (c : Cursor) : c.forward (m + n) = (c.forward m).forward n := by
  induction m generalizing c with
  | zero => rw [Nat.zero_add, forward]
  | succ m ih => rw [Nat.succ_add, forward, ih, forward]

theorem forward_between (before cs rest : List Char) :
    (between before (cs ++ rest)).forward cs.length = between (before ++ cs) rest := by
  induction cs generalizing before with
  | nil => rw [List.append_nil]; rfl
  | cons c cs ih =>
    rw [List.length_cons, forward, List.cons_append, advance_between, ih, List.append_assoc]
    rfl

end Cursor

end SchemaGrammar.Source
