import SchemaGrammar.Proofs.ArrayTypes
import SchemaGrammar.Proofs.Faults
import SchemaGrammar.Proofs.Trimming

/-!
# Bars in angle brackets

A text is nested if as many angle brackets close in it as open, and some bracket is open at each of
its bars. A spelling that stands for something is closed: it has no bars, and its brackets match.
Hence a nested text with a bar stands for nothing, and neither does what is before its first bar.
-/
namespace SchemaGrammar

/-! ## Nested texts -/

/-- Neither bars nor angle brackets occur. -/
structure Unmarked (cs : List Char) : Prop where
  openAngle : '<' ∉ cs
  closeAngle : '>' ∉ cs
  bar : '|' ∉ cs

theorem unmarked_of_forall {p : Char → Bool} {cs : List Char} (h : ∀ c ∈ cs, p c = true)
    (hopen : p '<' = false) (hclose : p '>' = false) (hbar : p '|' = false) : Unmarked cs := by
  have hnot (c : Char) (hc : p c = false) : c ∉ cs := fun hmem =>
    Bool.false_ne_true (hc.symm.trans (h c hmem))
  exact ⟨hnot _ hopen, hnot _ hclose, hnot _ hbar⟩

theorem Unmarked.append {v w : List Char} (hv : Unmarked v) (hw : Unmarked w) :
    Unmarked (v ++ w) :=
  ⟨by simp [hv.openAngle, hw.openAngle], by simp [hv.closeAngle, hw.closeAngle],
    by simp [hv.bar, hw.bar]⟩

/-- Angle brackets match, and at each bar one is open, where `depth` count as open before. -/
structure Nested (depth : ℕ) (cs : List Char) : Prop where
  balanced : cs.count '>' = cs.count '<'
  bars : ∀ pre rest, cs = pre ++ '|' :: rest → pre.count '>' < depth + pre.count '<'

namespace Nested

variable {depth : ℕ} {v w : List Char}

theorem of_unmarked (h : Unmarked v) : Nested depth v where
  balanced := by rw [List.count_eq_zero.mpr h.openAngle, List.count_eq_zero.mpr h.closeAngle]
  bars := by
    rintro pre rest rfl
    exact absurd h.bar (by simp)

theorem append (hv : Nested depth v) (hw : Nested depth w) : Nested depth (v ++ w) where
  balanced := by rw [List.count_append, List.count_append, hv.balanced, hw.balanced]
  bars := by
    intro pre rest hsplit
    -- the bar is in `w` behind all of `v`, or in `v`
    obtain ⟨pre, rfl, hw'⟩ | ⟨tail, hv', htail⟩ := List.append_eq_append_iff.mp hsplit
    · have hbars := hw.bars pre rest hw'
      have hbalanced := hv.balanced
      rw [List.count_append, List.count_append]
      omega
    · cases tail with
      | nil =>
        have hbars := hw.bars [] rest htail.symm
        have hbalanced := hv.balanced
        rw [hv', List.append_nil] at hbalanced
        rw [List.count_nil, List.count_nil] at hbars
        omega
      | cons c tail =>
        obtain ⟨rfl, -⟩ := List.cons.inj htail
        exact hv.bars pre tail hv'

theorem flatMap {α : Type} {f : α → List Char} {xs : List α}
    (h : ∀ x ∈ xs, Nested depth (f x)) : Nested depth (xs.flatMap f) := by
  induction xs with
  | nil => exact of_unmarked ⟨List.not_mem_nil, List.not_mem_nil, List.not_mem_nil⟩
  | cons x xs ih =>
    rw [List.forall_mem_cons] at h
    rw [List.flatMap_cons]
    exact h.1.append (ih h.2)

/-- More brackets that are open before do no harm. -/
theorem mono {depth' : ℕ} (h : Nested depth v) (hle : depth ≤ depth') : Nested depth' v where
  balanced := h.balanced
  bars pre rest hsplit := (h.bars pre rest hsplit).trans_le (Nat.add_le_add_right hle _)

/-- In angle brackets, one bracket more is open. -/
theorem enclose (h : Nested (depth + 1) v) : Nested depth ('<' :: (v ++ ['>'])) where
  balanced := by simp [h.balanced]
  bars := by
    intro pre rest hsplit
    cases pre with
    | nil => cases hsplit
    | cons c pre =>
      obtain ⟨rfl, hrest⟩ := List.cons.inj hsplit
      have hlt : pre.count '>' < depth + 1 + pre.count '<' := by
        obtain ⟨tail, -, htail⟩ | ⟨tail, hv, htail⟩ := List.append_eq_append_iff.mp hrest
        · have hbar : '|' ∈ ['>'] := by simp [htail]
          cases List.mem_singleton.mp hbar
        · cases tail with
          | nil => cases htail
          | cons c tail =>
            obtain ⟨rfl, -⟩ := List.cons.inj htail
            exact h.bars pre tail hv
      rw [List.count_cons_self, List.count_cons_of_ne (by decide)]
      omega

/-- A bar is nested where a bracket counts as open before. -/
theorem bar : Nested (depth + 1) ['|'] where
  balanced := rfl
  bars := by
    intro pre rest hsplit
    obtain ⟨rfl, -⟩ | ⟨_, hnil⟩ := List.singleton_eq_append_iff.mp hsplit
    · exact Nat.succ_pos _
    · cases hnil

end Nested

/-! ## Closed spellings -/

/-- No bars occur, and angle brackets match. -/
structure IsClosed (cs : List Char) : Prop where
  bar : '|' ∉ cs
  balanced : cs.count '>' = cs.count '<'

theorem Unmarked.isClosed {cs : List Char} (h : Unmarked cs) : IsClosed cs where
  bar := h.bar
  balanced := by rw [List.count_eq_zero.mpr h.openAngle, List.count_eq_zero.mpr h.closeAngle]

theorem Unmarked.isClosed_enclose {v w : List Char} (hv : Unmarked v) (hw : Unmarked w) :
    IsClosed (v ++ '<' :: (w ++ ['>'])) where
  bar := by simp [hv.bar, hw.bar]
  balanced := by
    have hv' := hv.isClosed.balanced
    have hw' := hw.isClosed.balanced
    simp only [List.count_append, List.count_cons, List.count_nil]
    simp [hv', hw']

namespace Spelling

theorem IsBlanks.unmarked {cs : List Char} (h : IsBlanks cs) : Unmarked cs :=
  unmarked_of_forall h rfl rfl rfl

theorem isClosed_of_genericElement {cs name : List Char} (h : genericElement cs = some name) :
    IsClosed cs := by
  obtain ⟨before, inside, after, hbefore, hinside, hafter, hname, rfl⟩ := exists_of_genericElement h
  have hword : Unmarked "Array".toList := ⟨by decide, by decide, by decide⟩
  have hparts : Unmarked name := unmarked_of_forall hname.parts rfl rfl rfl
  exact (hword.append hbefore.unmarked).isClosed_enclose
    ((hinside.unmarked.append hparts).append hafter.unmarked)

theorem isClosed_of_bracketElement {cs name : List Char} (h : bracketElement cs = some name) :
    IsClosed cs := by
  obtain ⟨before, inside, hbefore, hinside, hname, rfl⟩ := exists_of_bracketElement h
  have hparts : Unmarked name := unmarked_of_forall hname.parts rfl rfl rfl
  have hopen : Unmarked ['['] := ⟨by decide, by decide, by decide⟩
  have hclose : Unmarked [']'] := ⟨by decide, by decide, by decide⟩
  exact ((hparts.append hbefore.unmarked).append
    (hopen.append (hinside.unmarked.append hclose))).isClosed

theorem isClosed_of_arrayElement {word name : String} (h : arrayElement word = some name) :
    IsClosed (Text.trimBlanks word.toList) := by
  obtain hgeneric | hbracket := arrayElement_eq_some h
  · exact isClosed_of_genericElement hgeneric
  · exact isClosed_of_bracketElement hbracket

end Spelling

/-- What a step claims is a name of the scope or spells an array. -/
theorem ResolutionStep.name_or_arrayElement_of_claim {scope : Scope} {word : String}
    {step : ResolutionStep} {item : ItemType} (h : step.claim scope word = some item) :
    word ∈ scope.builtins ∨ word ∈ scope.records ++ scope.enumerations ∨
      ∃ name, Spelling.arrayElement word = some name := by
  rw [List.mem_append]
  cases step <;> rw [claim] at h
  case builtin => exact .inl (Option.ite_none_right_eq_some.mp h).1
  case scalarList =>
    obtain ⟨name, hname, -⟩ := Option.bind_eq_some_iff.mp h
    exact .inr (.inr ⟨name, hname⟩)
  case enumeration => exact .inr (.inl (.inr (Option.ite_none_right_eq_some.mp h).1))
  case record => exact .inr (.inl (.inl (Option.ite_none_right_eq_some.mp h).1))
  case recordArray =>
    obtain ⟨name, hname, -⟩ := Option.bind_eq_some_iff.mp h
    exact .inr (.inr ⟨name, hname⟩)

theorem Builtin.unmarked_name (b : Builtin) : Unmarked b.name.toList := by
  have hletters : b.name.toList.all Char.isAlpha = true := by cases b <;> decide
  exact unmarked_of_forall (List.all_eq_true.mp hletters) rfl rfl rfl

/-- What stands for something is closed, if the declared names are. -/
theorem Schema.Claims.isClosed {s : Schema} {spelling : String}
    (hnames : ∀ name ∈ s.recordNames ++ s.enumerationNames, Unmarked name.toList)
    (h : s.Claims spelling) : IsClosed (Text.trimBlanks spelling.toList) := by
  obtain ⟨step, item, hclaim⟩ := h
  have htrim : (Spelling.trim spelling).toList = Text.trimBlanks spelling.toList :=
    String.toList_ofList
  rw [← htrim]
  obtain hbuiltin | hname | ⟨name, harray⟩ := ResolutionStep.name_or_arrayElement_of_claim hclaim
  · obtain ⟨b, -, hb⟩ := List.mem_map.mp hbuiltin
    rw [← hb]
    exact b.unmarked_name.isClosed
  · exact (hnames _ hname).isClosed
  · have hclosed := Spelling.isClosed_of_arrayElement harray
    rwa [htrim, (Text.isTrimmed_trimBlanks _).trimBlanks_eq, ← htrim] at hclosed

end SchemaGrammar
