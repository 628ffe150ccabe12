import Mathlib.Algebra.Group.Nat.Defs
import SchemaGrammar.Proofs.Source.Lexemes
import SchemaGrammar.Proofs.Source.StringEnds
import SchemaGrammar.Text.Quoted

/-!
# Quoted strings in source

The quoted form of a string is read as a string token with that value: every escape that quoting
writes gives its character back, and no character is half of a surrogate pair.
-/
namespace SchemaGrammar

namespace Text

theorem le_toNat_of_isHexDigit {c : Char} (h : isHexDigit c = true) : 32 ≤ c.toNat := by
  simp only [isHexDigit, Char.isDigit, Bool.or_eq_true, Bool.and_eq_true, decide_eq_true_eq,
    Char.le_def, UInt32.le_iff_toNat_le] at h
  change 32 ≤ c.val.toNat
  obtain (⟨h, -⟩ | ⟨h, -⟩) | ⟨h, -⟩ := h
  · exact le_trans (by decide) h
  · exact le_trans (by decide) h
  · exact le_trans (by decide) h

theorem isHexDigit_hexDigit : ∀ n < 16, isHexDigit (hexDigit n) = true := by decide

theorem digitValue_hexDigit : ∀ n < 16, digitValue (hexDigit n) = n := by decide

@[simp] theorem length_hexDigits (width n : Nat) : (hexDigits width n).length = width := by
  induction width generalizing n with
  | zero => rfl
  | succ width ih => rw [hexDigits, List.length_append, ih, List.length_singleton]

theorem isHexDigit_of_mem_hexDigits {width n : Nat} {c : Char} (h : c ∈ hexDigits width n) :
    isHexDigit c = true := by
  induction width generalizing n with
  | zero => cases h
  | succ width ih =>
    rw [hexDigits, List.mem_append, List.mem_singleton] at h
    obtain h | rfl := h
    · exact ih h
    · exact isHexDigit_hexDigit _ (Nat.mod_lt _ (by decide))

theorem hexValue_append (digits : List Char) (c : Char) :
    hexValue (digits ++ [c]) = 16 * hexValue digits + digitValue c := by
  rw [hexValue, valueInBase, List.foldl_append]
  rfl

/-- Hexadecimal digits stand for the number they are written for, if they are enough. -/
theorem hexValue_hexDigits {width n : Nat} (h : n < 16 ^ width) :
    hexValue (hexDigits width n) = n := by
  induction width generalizing n with
  | zero =>
    rw [Nat.pow_zero, Nat.lt_one_iff] at h
    rw [h]
    rfl
  | succ width ih =>
    have hn : n / 16 < 16 ^ width := Nat.div_lt_of_lt_mul (by rwa [Nat.pow_succ'] at h)
    have hmod : n % 16 < 16 := Nat.mod_lt n (by decide)
    rw [hexDigits, hexValue_append, ih hn, digitValue_hexDigit _ hmod]
    exact Nat.div_add_mod n 16

/-- No character is a surrogate. -/
theorem toNat_lt_or_lt (c : Char) : c.toNat < 0xD800 ∨ 0xDFFF < c.toNat := by
  have hc : c.toNat < 0xD800 ∨ 0xDFFF < c.toNat ∧ c.toNat < 0x110000 := c.valid
  exact hc.imp_right And.left

theorem toNat_ofNat {n : Nat} (hle : n ≤ 0x10FFFF) (h : n < 0xD800 ∨ 0xDFFF < n) :
    (Char.ofNat n).toNat = n := by
  have hvalid : n.isValidChar := h.imp_right fun h => ⟨h, by omega⟩
  rw [Char.ofNat, dif_pos hvalid]
  rfl

theorem isHighSurrogate_toNat (c : Char) : isHighSurrogate c.toNat = false := by
  have hc := toNat_lt_or_lt c
  simp only [isHighSurrogate, Bool.and_eq_false_iff, decide_eq_false_iff_not, Nat.not_le]
  omega

theorem isLowSurrogate_toNat (c : Char) : isLowSurrogate c.toNat = false := by
  have hc := toNat_lt_or_lt c
  simp only [isLowSurrogate, Bool.and_eq_false_iff, decide_eq_false_iff_not, Nat.not_le]
  omega

theorem joinSurrogates_toNat_cons (c : Char) (ns : List Nat) :
    joinSurrogates (c.toNat :: ns) = (joinSurrogates ns).map (c :: ·) := by
  cases ns with
  | nil => simp [joinSurrogates, isHighSurrogate_toNat, isLowSurrogate_toNat, Char.ofNat_toNat]
  | cons n ns =>
    simp [joinSurrogates, isHighSurrogate_toNat, isLowSurrogate_toNat, Char.ofNat_toNat]

/-- The code points of characters are joined to the same characters. -/
theorem joinSurrogates_map_toNat (cs : List Char) :
    joinSurrogates (cs.map Char.toNat) = some cs := by
  induction cs with
  | nil => rfl
  | cons c cs ih =>
    rw [List.map_cons, joinSurrogates_toNat_cons, ih]
    rfl

end Text

namespace Source

theorem stringContent_hexDigits {q : Char} (hq : q ≠ '\\') {n : Nat} (h : n < 16 ^ 4)
    (t : List Char) :
    stringContent q ('\\' :: 'u' :: (Text.hexDigits 4 n ++ t)) =
      (stringContent q t).after [n] 6 := by
  have hdigits : ∀ d ∈ Text.hexDigits 4 n, Text.isHexDigit d = true := by
    intro d hd
    exact Text.isHexDigit_of_mem_hexDigits hd
  have hescape := NumericEscape.four (Text.length_hexDigits 4 n) hdigits
  rw [Text.hexValue_hexDigits h] at hescape
  have hread := stringContent_numericEscape hq hescape t
  rwa [List.length_cons, Text.length_hexDigits] at hread

/-- What quoting writes for a character gives that character. -/
theorem stringContent_escape (c : Char) (t : List Char) :
    stringContent '"' (Text.escape c ++ t) =
      (stringContent '"' t).after [c.toNat] (Text.escape c).length := by
  unfold Text.escape
  split
  · exact stringContent_simpleEscape (by decide) (by decide) (by decide) t
  · exact stringContent_simpleEscape (by decide) (by decide) (by decide) t
  · exact stringContent_simpleEscape (by decide) (by decide) (by decide) t
  · exact stringContent_simpleEscape (by decide) (by decide) (by decide) t
  · exact stringContent_simpleEscape (by decide) (by decide) (by decide) t
  · exact stringContent_simpleEscape (by decide) (by decide) (by decide) t
  · exact stringContent_simpleEscape (by decide) (by decide) (by decide) t
  · next hquote hslash hline _ _ _ _ =>
    split_ifs with hcontrol
    · rw [List.cons_append, List.cons_append, stringContent_hexDigits (by decide) (by omega),
        List.length_cons, List.length_cons, Text.length_hexDigits]
    · exact stringContent_ordinary ⟨hquote, fun h => absurd h hline, hslash⟩ t

theorem stringContent_flatMap_escape (cs t : List Char) :
    stringContent '"' (cs.flatMap Text.escape ++ '"' :: t) =
      .closed (cs.map Char.toNat) ((cs.flatMap Text.escape).length + 1) := by
  induction cs with
  | nil =>
    rw [List.flatMap_nil, List.nil_append, stringContent.eq_def]
    rfl
  | cons c cs ih =>
    rw [List.flatMap_cons, List.append_assoc, stringContent_escape, ih, Content.after,
      List.length_append]
    simp only [List.map_cons, List.singleton_append, Content.closed.injEq, true_and]
    omega

/-- A quoted string is read as its value, whatever follows it. -/
theorem stringLiteral_quote (value : String) (cs : List Char) :
    stringLiteral (Text.quote value.toList ++ cs) =
      ⟨.ok value, (Text.quote value.toList).length⟩ := by
  have hcontent := stringContent_flatMap_escape value.toList cs
  rw [Text.quote, List.append_assoc, List.singleton_append, List.cons_append, stringLiteral,
    hcontent]
  simp [Text.joinSurrogates_map_toNat]

theorem Spells.quoted (value : String) {cs : List Char} {ls : List Lexeme} (h : Spells cs ls) :
    Spells (Text.quote value.toList ++ cs) (.text value :: ls) := by
  have hscan : tokenScan '"' ((value.toList.flatMap Text.escape ++ ['"']) ++ cs) =
      ⟨.ok (Lexeme.text value), (value.toList.flatMap Text.escape ++ ['"']).length + 1⟩ := by
    have hliteral : stringLiteral ('"' :: (value.toList.flatMap Text.escape ++ ['"'] ++ cs)) =
        ⟨.ok value, _⟩ := stringLiteral_quote value cs
    rw [tokenScan, if_pos (by rfl), hliteral]
    rfl
  exact .token rfl (by decide) hscan h

end Source

end SchemaGrammar
