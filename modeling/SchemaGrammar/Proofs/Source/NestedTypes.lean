import SchemaGrammar.Proofs.Nesting
import SchemaGrammar.Proofs.Source.Spelling

/-!
# The text of a type is nested

The bars of an alternative stand in the angle brackets of its type arguments; those of a type may
also stand between its alternatives. There are no blanks around an alternative.
-/
namespace SchemaGrammar.Source

theorem IsName.unmarked {name : String} (h : IsName name) : Unmarked name.toList :=
  unmarked_of_forall h.isWordPart rfl rfl rfl

theorem IsName.isTrimmed {name : String} (h : IsName name) : Text.IsTrimmed name.toList := by
  refine .of_all (List.all_eq_true.mpr fun c hc => ?_)
  rw [Bool.not_eq_true', ← Bool.not_eq_true]
  intro hblank
  cases (isWordPart_of_isBlank hblank).symm.trans (h.isWordPart c hc)

/-! ## Parts of an alternative -/

theorem nested_path (path : List Word) :
    Nested 0 (String.join (path.map ("." ++ ·.text))).toList ∧
      Text.IsTrimmed (String.join (path.map ("." ++ ·.text))).toList := by
  rw [String.toList_join, List.flatMap_map]
  refine ⟨Nested.flatMap fun name _ => ?_, Text.IsTrimmed.flatMap fun name _ => ?_⟩
  · rw [String.toList_append]
    exact .of_unmarked (.append ⟨by decide, by decide, by decide⟩ name.isName.unmarked)
  · rw [String.toList_append]
    exact .append (.of_all rfl) name.isName.isTrimmed

theorem nested_brackets (brackets : ℕ) :
    Nested 0 (String.join (List.replicate brackets "[]")).toList ∧
      Text.IsTrimmed (String.join (List.replicate brackets "[]")).toList := by
  rw [String.toList_join]
  refine ⟨Nested.flatMap fun text htext => ?_, Text.IsTrimmed.flatMap fun text htext => ?_⟩
  · rw [List.eq_of_mem_replicate htext]
    exact .of_unmarked ⟨by decide, by decide, by decide⟩
  · rw [List.eq_of_mem_replicate htext]
    exact .of_all rfl

theorem nested_arguments {texts : List String} (h : ∀ text ∈ texts, Nested 1 text.toList) :
    Nested 0 (argumentsText texts).toList := by
  cases texts with
  | nil => exact .of_unmarked ⟨by decide, by decide, by decide⟩
  | cons text texts =>
    rw [List.forall_mem_cons] at h
    have hothers : Nested 1 (texts.flatMap fun text => ", ".toList ++ text.toList) :=
      Nested.flatMap fun text htext =>
        (Nested.of_unmarked ⟨by decide, by decide, by decide⟩).append (h.2 text htext)
    rw [argumentsText, String.toList_append, String.toList_append, toList_intercalate_cons]
    exact (h.1.append hothers).enclose

theorem isTrimmed_arguments (texts : List String) :
    Text.IsTrimmed (argumentsText texts).toList := by
  cases texts with
  | nil => exact .of_all rfl
  | cons text texts =>
    rw [argumentsText, String.toList_append, String.toList_append]
    constructor
    · rintro c ⟨⟩
      rfl
    · intro c hc
      cases List.getLast?_concat.symm.trans hc
      rfl

/-! ## Types -/

mutual

theorem TypeAtom.nested : ∀ a : TypeAtom, Nested 0 a.text.toList
  | .mk head path arguments brackets => by
    have harguments : ∀ text ∈ arguments.map TypeUnion.text, Nested 1 text.toList :=
      List.forall_mem_map.mpr (TypeUnion.nested_of_mem arguments)
    rw [TypeAtom.text, TypeUnion.texts_eq_map, String.toList_append, String.toList_append,
      String.toList_append]
    exact (((Nested.of_unmarked head.isName.unmarked).append (nested_path path).1).append
      (nested_arguments harguments)).append (nested_brackets brackets).1

theorem TypeUnion.nested : ∀ t : TypeUnion, Nested 1 t.text.toList
  | .mk first others => by
    have hspace : Nested 1 [' '] := .of_unmarked ⟨by decide, by decide, by decide⟩
    have hbar : Nested 1 " | ".toList := (hspace.append Nested.bar).append hspace
    have hfirst : Nested 1 first.text.toList := first.nested.mono (Nat.zero_le 1)
    rw [TypeUnion.text, TypeAtom.texts_eq_map, toList_intercalate_cons, List.flatMap_map]
    exact hfirst.append (Nested.flatMap fun a ha =>
      hbar.append ((TypeAtom.nested_of_mem others a ha).mono (Nat.zero_le 1)))

theorem TypeAtom.nested_of_mem : ∀ as : List TypeAtom, ∀ a ∈ as, Nested 0 a.text.toList
  | [], _, ha => nomatch ha
  | a :: _, _, .head _ => TypeAtom.nested a
  | _ :: as, b, .tail _ hb => TypeAtom.nested_of_mem as b hb

theorem TypeUnion.nested_of_mem : ∀ ts : List TypeUnion, ∀ t ∈ ts, Nested 1 t.text.toList
  | [], _, ht => nomatch ht
  | t :: _, _, .head _ => TypeUnion.nested t
  | _ :: ts, u, .tail _ hu => TypeUnion.nested_of_mem ts u hu

end

theorem TypeAtom.isTrimmed (a : TypeAtom) : Text.IsTrimmed a.text.toList := by
  obtain ⟨head, path, arguments, brackets⟩ := a
  rw [TypeAtom.text, String.toList_append, String.toList_append, String.toList_append]
  exact ((head.isName.isTrimmed.append (nested_path path).2).append
    (isTrimmed_arguments _)).append (nested_brackets brackets).2

theorem TypeAtom.text_ne_empty (a : TypeAtom) : a.text ≠ "" := by
  obtain ⟨head, path, arguments, brackets⟩ := a
  intro hempty
  rw [TypeAtom.text] at hempty
  simp only [String.append_eq_empty_iff] at hempty
  exact head.isName.ne_empty hempty.1.1.1

end SchemaGrammar.Source
