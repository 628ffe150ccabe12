import SchemaGrammar.Proofs.Source.Strings

/-!
# Texts and their code points

A text gives back the code points that it holds, halves of surrogate pairs included. A half in it
is a mark with a character behind it that tells the half, so where two texts are joined no half
arises unless the second begins with such a character. Quoting neither adds halves nor hides them.
-/
namespace SchemaGrammar.Text

theorem isHalf_iff {n : Nat} : isHalf n = true ↔ 0xD800 ≤ n ∧ n ≤ 0xDFFF := by
  simp only [isHalf, isHighSurrogate, isLowSurrogate, Bool.or_eq_true, Bool.and_eq_true,
    decide_eq_true_eq]
  omega

theorem isHalf_toNat (c : Char) : isHalf c.toNat = false := by
  rw [isHalf, isHighSurrogate_toNat, isLowSurrogate_toNat, Bool.or_self]

theorem tellsHalf_iff {c : Char} : tellsHalf c = true ↔ 0x10F800 ≤ c.toNat := by
  rw [tellsHalf, decide_eq_true_eq]
  rfl

/-! ## Characters are held as they are -/

theorem hold_map_toNat (cs : List Char) : hold (cs.map Char.toNat) = cs := by
  induction cs with
  | nil => rfl
  | cons c cs ih =>
    rw [hold] at ih
    rw [hold, List.map_cons, List.flatMap_cons, ih, held, isHalf_toNat, if_neg Bool.false_ne_true,
      Char.ofNat_toNat, List.singleton_append]

theorem joinPairs_map_toNat (cs : List Char) :
    joinPairs (cs.map Char.toNat) = cs.map Char.toNat := by
  induction cs with
  | nil => rfl
  | cons c cs ih =>
    cases cs with
    | nil => rfl
    | cons d cs =>
      rw [List.map_cons] at ih
      simp [joinPairs, isHighSurrogate_toNat, ih]

/-! ## Code points are given back -/

theorem codePoints_cons {c : Char} (h : c ≠ halfMark) (cs : List Char) :
    codePoints (c :: cs) = c.toNat :: codePoints cs := by
  cases cs <;> simp [codePoints, h]

theorem codePoints_mark {d : Char} (h : tellsHalf d = true) (cs : List Char) :
    codePoints (halfMark :: d :: cs) = (d.toNat - halfDistance) :: codePoints cs := by
  simp [codePoints, h]

theorem codePoints_held_append {n : Nat} (hn : n < 0x110000) (hmark : n ≠ halfMark.toNat)
    (cs : List Char) : codePoints (held n ++ cs) = n :: codePoints cs := by
  rw [held]
  split_ifs with hhalf
  · rw [isHalf_iff] at hhalf
    have hchar : (Char.ofNat (n + halfDistance)).toNat = n + halfDistance := by
      rw [halfDistance]
      exact toNat_ofNat (by omega) (by omega)
    have htells : tellsHalf (Char.ofNat (n + halfDistance)) = true := by
      rw [tellsHalf_iff, hchar, halfDistance]
      omega
    rw [List.cons_append, List.singleton_append, codePoints_mark htells, hchar, Nat.add_sub_cancel]
  · rw [isHalf_iff] at hhalf
    have hchar : (Char.ofNat n).toNat = n := toNat_ofNat (by omega) (by omega)
    have hne : Char.ofNat n ≠ halfMark := by
      intro h
      exact hmark (h ▸ hchar.symm)
    rw [List.singleton_append, codePoints_cons hne, hchar]

/-- A text gives back the code points it holds, if none of them is the mark of halves itself. -/
theorem codePoints_hold {ns : List Nat} (h : ∀ n ∈ ns, n < 0x110000 ∧ n ≠ halfMark.toNat) :
    codePoints (hold ns) = ns := by
  induction ns with
  | nil => rfl
  | cons n ns ih =>
    rw [List.forall_mem_cons] at h
    rw [hold] at ih
    rw [hold, List.flatMap_cons, codePoints_held_append h.1.1 h.1.2, ih h.2]

/-! ## Halves in joined and in quoted texts -/

theorem isHalf_of_tellsHalf {d : Char} (h : tellsHalf d = true) :
    isHalf (d.toNat - halfDistance) = true := by
  have hvalid : d.toNat < 0xD800 ∨ 0xDFFF < d.toNat ∧ d.toNat < 0x110000 := d.valid
  rw [tellsHalf_iff] at h
  rw [isHalf_iff, halfDistance]
  omega

theorem holdsHalf_cons (c : Char) (cs : List Char) :
    holdsHalf (c :: cs) = (c = halfMark && cs.head?.any tellsHalf || holdsHalf cs) := by
  cases cs with
  | nil => simp [holdsHalf, codePoints, isHalf_toNat]
  | cons d cs =>
    rw [holdsHalf, codePoints]
    split_ifs with h
    · have htells : tellsHalf d = true := (Bool.and_eq_true_iff.mp h).2
      rw [List.any_cons, isHalf_of_tellsHalf htells, List.head?_cons, Option.any_some, h,
        Bool.true_or, Bool.true_or]
    · rw [List.any_cons, isHalf_toNat, Bool.false_or, List.head?_cons, Option.any_some,
        Bool.eq_false_iff.mpr h, Bool.false_or, holdsHalf]

/-- No half arises where a text follows that does not begin in the middle of one. -/
theorem holdsHalf_append (v : List Char) {w : List Char} (h : w.head?.any tellsHalf = false) :
    holdsHalf (v ++ w) = (holdsHalf v || holdsHalf w) := by
  induction v with
  | nil => rfl
  | cons c v ih =>
    have hhead : (v ++ w).head?.any tellsHalf = v.head?.any tellsHalf := by
      cases v with
      | nil => exact h
      | cons d v => rfl
    rw [List.cons_append, holdsHalf_cons, holdsHalf_cons, ih, hhead, Bool.or_assoc]

/-- Parts that do not begin in the middle of a half make a text that does not either. -/
theorem head?_any_flatMap {α : Type} {f : α → List Char} {xs : List α}
    (h : ∀ x ∈ xs, (f x).head?.any tellsHalf = false) :
    (xs.flatMap f).head?.any tellsHalf = false := by
  induction xs with
  | nil => rfl
  | cons x xs ih =>
    rw [List.forall_mem_cons] at h
    obtain ⟨hx, hxs⟩ := h
    rw [List.flatMap_cons]
    cases hcs : f x with
    | nil => exact ih hxs
    | cons c cs =>
      rw [hcs] at hx
      exact hx

theorem holdsHalf_flatMap {α : Type} {f : α → List Char} {xs : List α}
    (h : ∀ x ∈ xs, (f x).head?.any tellsHalf = false) :
    holdsHalf (xs.flatMap f) = xs.any fun x => holdsHalf (f x) := by
  induction xs with
  | nil => rfl
  | cons x xs ih =>
    rw [List.forall_mem_cons] at h
    rw [List.flatMap_cons, holdsHalf_append _ (head?_any_flatMap h.2), ih h.2, List.any_cons]

theorem holdsHalf_append_of_not_mem {v : List Char} (h : halfMark ∉ v) (w : List Char) :
    holdsHalf (v ++ w) = holdsHalf w := by
  induction v with
  | nil => rfl
  | cons c v ih =>
    rw [List.mem_cons, not_or] at h
    rw [List.cons_append, holdsHalf_cons, ih h.2, decide_eq_false (Ne.symm h.1), Bool.false_and,
      Bool.false_or]

theorem holdsHalf_of_not_mem {v : List Char} (h : halfMark ∉ v) : holdsHalf v = false := by
  rw [← List.append_nil v, holdsHalf_append_of_not_mem h]
  rfl

/-- A character is written as it is, or it is in no half and what is written has no mark in it. -/
theorem escape_eq_or (c : Char) : escape c = [c] ∨
    c ≠ halfMark ∧ tellsHalf c = false ∧ halfMark ∉ escape c ∧ (escape c).head? = some '\\' := by
  unfold escape
  split
  iterate 7 exact .inr (by decide)
  split_ifs with hcontrol
  · have htells : tellsHalf c = false := by
      rw [Bool.eq_false_iff, Ne, tellsHalf_iff]
      omega
    have hdigits : halfMark ∉ Text.hexDigits 4 c.toNat :=
      fun h => nomatch isHexDigit_of_mem_hexDigits h
    refine .inr ⟨?_, htells, by simpa [halfMark] using hdigits, rfl⟩
    rintro rfl
    revert hcontrol
    decide
  · exact .inl rfl

/-- What is written for characters begins in the middle of a half if they do. -/
theorem head?_any_flatMap_escape (cs : List Char) :
    (cs.flatMap escape ++ ['"']).head?.any tellsHalf = cs.head?.any tellsHalf := by
  cases cs with
  | nil => rfl
  | cons c cs =>
    rw [List.flatMap_cons, List.append_assoc, List.head?_append, List.head?_cons]
    obtain h | ⟨-, hc, -, h⟩ := escape_eq_or c
    · rw [h]
      rfl
    · rw [h, Option.any_some, hc]
      rfl

/-- Quoting neither adds halves nor hides them. -/
theorem holdsHalf_quote (cs : List Char) : holdsHalf (quote cs) = holdsHalf cs := by
  have hwritten : holdsHalf (cs.flatMap escape ++ ['"']) = holdsHalf cs := by
    induction cs with
    | nil => rfl
    | cons c cs ih =>
      have hhead := head?_any_flatMap_escape cs
      rw [List.flatMap_cons, List.append_assoc]
      obtain h | ⟨hc, -, hmark, -⟩ := escape_eq_or c
      · rw [h, List.singleton_append, holdsHalf_cons, holdsHalf_cons, hhead, ih]
      · rw [holdsHalf_append_of_not_mem hmark, ih, holdsHalf_cons, decide_eq_false hc,
          Bool.false_and, Bool.false_or]
  rw [quote, List.cons_append, holdsHalf_cons, hwritten]
  rfl

end SchemaGrammar.Text
