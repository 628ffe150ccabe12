import Mathlib.Tactic.SplitIfs
import SchemaGrammar.Text.CharClass

/-!
# Characters of different classes

A letter is neither a digit nor a blank, and no digit or number is a blank. In ASCII this is a
comparison; above it the ranges of the classes have no code point in common.
-/
namespace SchemaGrammar.Text

def apart (as bs : List (Nat × Nat)) : Bool :=
  as.all fun a => bs.all fun b => a.2.blt b.1 || b.2.blt a.1

theorem inRanges_eq_true {ranges : List (Nat × Nat)} {n : Nat} :
    inRanges ranges n = true ↔ ∃ range ∈ ranges, range.1 ≤ n ∧ n ≤ range.2 := by
  simp only [inRanges, List.any_eq_true, Bool.and_eq_true, decide_eq_true_eq]

theorem inRanges_of_apart {as bs : List (Nat × Nat)} (h : apart as bs = true) {n : Nat}
    (hn : inRanges as n = true) : inRanges bs n = false := by
  rw [← Bool.not_eq_true, inRanges_eq_true]
  rintro ⟨b, hb, hb₁, hb₂⟩
  obtain ⟨a, ha, ha₁, ha₂⟩ := inRanges_eq_true.mp hn
  have hab := List.all_eq_true.mp (List.all_eq_true.mp h a ha) b hb
  rw [Bool.or_eq_true, Nat.blt_eq, Nat.blt_eq] at hab
  omega

def blankRanges : List (Nat × Nat) :=
  [(0x85, 0x85), (0xA0, 0xA0), (0x1680, 0x1680), (0x2000, 0x200A), (0x2028, 0x2029),
    (0x202F, 0x202F), (0x205F, 0x205F), (0x3000, 0x3000)]

theorem inRanges_blankRanges {c : Char} (h : isBlank c = true) (hc : 128 ≤ c.toNat) :
    inRanges blankRanges c.toNat = true := by
  simp only [isBlank, blankRanges, inRanges, List.any_cons, List.any_nil, Bool.or_eq_true,
    Bool.and_eq_true, decide_eq_true_eq, beq_iff_eq, Bool.or_false] at h ⊢
  omega

theorem apart_digits_letters : apart digitRanges letterRanges = true := by decide +kernel

theorem apart_blanks_letters : apart blankRanges letterRanges = true := by decide +kernel

theorem apart_blanks_digits : apart blankRanges digitRanges = true := by decide +kernel

theorem apart_blanks_numerics : apart blankRanges numericRanges = true := by decide +kernel

/-- The code points of ASCII letters. -/
theorem isAlpha_iff {c : Char} : c.isAlpha = true ↔
    (65 ≤ c.toNat ∧ c.toNat ≤ 90) ∨ (97 ≤ c.toNat ∧ c.toNat ≤ 122) := by
  change (decide (c.val ≥ 'A'.val ∧ c.val ≤ 'Z'.val) ||
    (decide (c.val ≥ 'a'.val) && decide (c.val ≤ 'z'.val))) = true ↔ _
  simp only [Bool.or_eq_true, Bool.and_eq_true, decide_eq_true_eq, ge_iff_le,
    UInt32.le_iff_toNat_le]
  rfl

theorem isDigit_iff {c : Char} : c.isDigit = true ↔ 48 ≤ c.toNat ∧ c.toNat ≤ 57 := by
  simp only [Char.isDigit, Bool.and_eq_true, decide_eq_true_eq, ge_iff_le, UInt32.le_iff_toNat_le]
  rfl

theorem isDigit_of_isLetter {c : Char} (h : isLetter c = true) : isDigit c = false := by
  rw [← Bool.not_eq_true]
  intro hd
  rw [isLetter] at h
  rw [isDigit] at hd
  split_ifs at h hd with hc
  · have ha := isAlpha_iff.mp h
    have hd := isDigit_iff.mp hd
    omega
  · rw [inRanges_of_apart apart_digits_letters hd] at h
    cases h

theorem isBlank_of_isLetter {c : Char} (h : isLetter c = true) : isBlank c = false := by
  rw [← Bool.not_eq_true]
  intro hb
  rw [isLetter] at h
  split_ifs at h with hc
  · have ha := isAlpha_iff.mp h
    simp only [isBlank, Bool.or_eq_true, Bool.and_eq_true, decide_eq_true_eq, beq_iff_eq] at hb
    omega
  · rw [inRanges_of_apart apart_blanks_letters (inRanges_blankRanges hb (by omega))] at h
    cases h

theorem isDigit_of_isBlank {c : Char} (h : isBlank c = true) : isDigit c = false := by
  rw [← Bool.not_eq_true]
  intro hd
  rw [isDigit] at hd
  split_ifs at hd with hc
  · have hd := isDigit_iff.mp hd
    simp only [isBlank, Bool.or_eq_true, Bool.and_eq_true, decide_eq_true_eq, beq_iff_eq] at h
    omega
  · rw [inRanges_of_apart apart_blanks_digits (inRanges_blankRanges h (by omega))] at hd
    cases hd

theorem isLetterOrNumber_of_isAlpha {c : Char} (h : c.isAlpha = true) :
    isLetterOrNumber c = true := by
  have hcode := isAlpha_iff.mp h
  rw [isLetterOrNumber, if_pos (by omega), Char.isAlphanum, h, Bool.true_or]

theorem isLetterOrNumber_of_isLetter {c : Char} (h : isLetter c = true) :
    isLetterOrNumber c = true := by
  rw [isLetter] at h
  rw [isLetterOrNumber]
  split_ifs at h ⊢
  · rw [Char.isAlphanum, h, Bool.true_or]
  · rw [h, Bool.true_or]

theorem isLetterOrNumber_of_isBlank {c : Char} (h : isBlank c = true) :
    isLetterOrNumber c = false := by
  rw [← Bool.not_eq_true]
  intro hl
  rw [isLetterOrNumber] at hl
  split_ifs at hl with hc
  · rw [Char.isAlphanum, Bool.or_eq_true, isAlpha_iff, isDigit_iff] at hl
    simp only [isBlank, Bool.or_eq_true, Bool.and_eq_true, decide_eq_true_eq, beq_iff_eq] at h
    omega
  · have hranges := inRanges_blankRanges h (by omega)
    rw [inRanges_of_apart apart_blanks_letters hranges,
      inRanges_of_apart apart_blanks_numerics hranges] at hl
    cases hl

end SchemaGrammar.Text
