import Mathlib.Data.List.DropRight
import SchemaGrammar.Text.CharClass

/-!
# Texts without blanks at the ends

Dropping the blanks at both ends leaves a text that has none there, and changes nothing in such a
text. A blank more at either end makes no difference.
-/
namespace SchemaGrammar

namespace Text

structure IsTrimmed (cs : List Char) : Prop where
  head : ∀ c ∈ cs.head?, isBlank c = false
  last : ∀ c ∈ cs.getLast?, isBlank c = false

namespace IsTrimmed

theorem of_all {cs : List Char} (h : cs.all (!isBlank ·) = true) : IsTrimmed cs := by
  simp only [List.all_eq_true, Bool.not_eq_true'] at h
  exact ⟨fun c hc => h c (List.mem_of_mem_head? hc), fun c hc => h c (List.mem_of_mem_getLast? hc)⟩

theorem append {v w : List Char} (hv : IsTrimmed v) (hw : IsTrimmed w) : IsTrimmed (v ++ w) where
  head := by
    cases v with
    | nil => exact hw.head
    | cons c v => exact hv.head
  last := by
    intro c hc
    rw [List.getLast?_append, Option.mem_def, Option.or_eq_some_iff] at hc
    obtain hw' | ⟨-, hv'⟩ := hc
    · exact hw.last c hw'
    · exact hv.last c hv'

theorem flatMap {α : Type} {f : α → List Char} {xs : List α} (h : ∀ x ∈ xs, IsTrimmed (f x)) :
    IsTrimmed (xs.flatMap f) := by
  induction xs with
  | nil => exact of_all rfl
  | cons x xs ih =>
    rw [List.forall_mem_cons] at h
    rw [List.flatMap_cons]
    exact h.1.append (ih h.2)

end IsTrimmed

theorem trimBlanks_cons {c : Char} (h : isBlank c = true) (cs : List Char) :
    trimBlanks (c :: cs) = trimBlanks cs := by
  simp [trimBlanks, h]

theorem trimBlanks_eq_rdropWhile (cs : List Char) :
    trimBlanks cs = (cs.dropWhile isBlank).rdropWhile isBlank := rfl

theorem mem_of_mem_trimBlanks {c : Char} {cs : List Char} (h : c ∈ trimBlanks cs) : c ∈ cs := by
  rw [trimBlanks_eq_rdropWhile] at h
  exact (List.dropWhile_sublist _).mem ((List.rdropWhile_prefix _ _).mem h)

theorem count_dropWhile_isBlank {c : Char} (h : isBlank c = false) (cs : List Char) :
    (cs.dropWhile isBlank).count c = cs.count c := by
  have hfront : (cs.takeWhile isBlank).count c = 0 := by
    rw [List.count_eq_zero]
    intro hmem
    rw [List.mem_takeWhile_imp hmem] at h
    cases h
  conv_rhs => rw [← List.takeWhile_append_dropWhile (p := isBlank) (l := cs), List.count_append]
  rw [hfront, Nat.zero_add]

/-- Only blanks are dropped. -/
theorem count_trimBlanks {c : Char} (h : isBlank c = false) (cs : List Char) :
    (trimBlanks cs).count c = cs.count c := by
  rw [trimBlanks, List.count_reverse, count_dropWhile_isBlank h, List.count_reverse,
    count_dropWhile_isBlank h]

theorem trimBlanks_concat {c : Char} (h : isBlank c = true) (cs : List Char) :
    trimBlanks (cs ++ [c]) = trimBlanks cs := by
  rw [trimBlanks_eq_rdropWhile, trimBlanks_eq_rdropWhile, List.dropWhile_append]
  split_ifs with hblank
  · rw [List.isEmpty_iff.mp hblank, List.dropWhile_cons_of_pos h, List.dropWhile_nil]
  · rw [List.rdropWhile_concat_pos _ _ _ h]

theorem isTrimmed_trimBlanks (cs : List Char) : IsTrimmed (trimBlanks cs) := by
  rw [trimBlanks_eq_rdropWhile]
  constructor
  · intro c hc
    obtain ⟨rest, hrest⟩ := List.rdropWhile_prefix isBlank (cs.dropWhile isBlank)
    have hhead : (cs.dropWhile isBlank).head? = some c := by
      rw [← hrest, List.head?_append, hc, Option.some_or]
    have hnot := List.head?_dropWhile_not isBlank cs
    rwa [hhead] at hnot
  · intro c hc
    obtain ⟨hne, rfl⟩ := List.mem_getLast?_eq_getLast hc
    simpa using List.rdropWhile_last_not isBlank _ hne

theorem IsTrimmed.trimBlanks_eq {cs : List Char} (h : IsTrimmed cs) : trimBlanks cs = cs := by
  have hfront : cs.dropWhile isBlank = cs := by
    cases cs with
    | nil => rfl
    | cons c cs => rw [List.dropWhile_cons_of_neg (by simp [h.head c rfl])]
  rw [trimBlanks_eq_rdropWhile, hfront, List.rdropWhile_eq_self_iff]
  intro hne
  simp [h.last _ (List.getLast?_eq_some_getLast hne)]

end Text

end SchemaGrammar
