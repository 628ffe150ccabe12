import Mathlib.Data.List.Induction
import SchemaGrammar.Proofs.Source.Places
import SchemaGrammar.Proofs.Source.Strings

/-!
# What strings stand for

A string is a quote, a body and the same quote. The body is a row of units that contribute code
points, and the value is made of these, where two halves of a surrogate pair that follow one another
are one character. A cursor before a quote reads a string exactly if there is one.
-/
namespace SchemaGrammar.Source

/-! ## Units -/

def HexDigit (d : Char) (n : Nat) : Prop :=
  "0123456789abcdef".toList[n]? = some d ∨ "0123456789ABCDEF".toList[n]? = some d

instance (d : Char) (n : Nat) : Decidable (HexDigit d n) := inferInstanceAs (Decidable (_ ∨ _))

/-- Hexadecimal digits, with the highest one in front, and their value. -/
inductive HexNumber : List Char → Nat → Prop
  | nil : HexNumber [] 0
  | snoc {digits d m n} : HexNumber digits m → HexDigit d n → HexNumber (digits ++ [d]) (16 * m + n)

def controls : List (Char × Nat) :=
  [('n', 10), ('t', 9), ('r', 13), ('b', 8), ('f', 12), ('v', 11), ('0', 0)]

/-- The characters of a unit between quotes `q`, and the code points that it contributes. -/
inductive StringUnit (q : Char) : List Char → List Nat → Prop
  | raw {c} : c ≠ q → c ≠ '\\' → (c = '\n' → q = '\x60') → StringUnit q [c] [c.toNat]
  | continuation : StringUnit q ['\\', '\n'] []
  | control {e n} : (e, n) ∈ controls → StringUnit q ['\\', e] [n]
  | pair {digits n} : digits.length = 2 → HexNumber digits n →
      StringUnit q ('\\' :: 'x' :: digits) [n]
  | four {digits n} : digits.length = 4 → HexNumber digits n →
      StringUnit q ('\\' :: 'u' :: digits) [n]
  | braced {digits n} : digits ≠ [] → HexNumber digits n → n ≤ 0x10FFFF →
      StringUnit q ('\\' :: 'u' :: '\x7b' :: (digits ++ ['\x7d'])) [n]
  | other {e} : e ∉ 'x' :: 'u' :: '\n' :: controls.map Prod.fst → StringUnit q ['\\', e] [e.toNat]

inductive StringBody (q : Char) : List Char → List Nat → Prop
  | nil : StringBody q [] []
  | cons {unit ms cs ns} : StringUnit q unit ms → StringBody q cs ns →
      StringBody q (unit ++ cs) (ms ++ ns)

/-- The characters of code points. No character is half of a surrogate pair, so no half is left. -/
inductive Joins : List Nat → List Char → Prop
  | nil : Joins [] []
  | char {ns cs} (c : Char) : Joins ns cs → Joins (c.toNat :: ns) (c :: cs)
  | pair {high low ns cs} (c : Char) : 0xD800 ≤ high → high < 0xDC00 → 0xDC00 ≤ low → low < 0xE000 →
      c.toNat = 0x10000 + 0x400 * (high - 0xD800) + (low - 0xDC00) → Joins ns cs →
      Joins (high :: low :: ns) (c :: cs)

theorem hexDigit_iff {d : Char} {n : Nat} :
    HexDigit d n ↔ Text.isHexDigit d = true ∧ Text.digitValue d = n := by
  constructor
  · have hsmall : ∀ p ∈ "0123456789abcdef".toList.zipIdx,
        Text.isHexDigit p.1 = true ∧ Text.digitValue p.1 = p.2 := by decide
    have hcapital : ∀ p ∈ "0123456789ABCDEF".toList.zipIdx,
        Text.isHexDigit p.1 = true ∧ Text.digitValue p.1 = p.2 := by decide
    rintro (h | h)
    · exact hsmall (d, n) (List.mk_mem_zipIdx_iff_getElem?.mpr h)
    · exact hcapital (d, n) (List.mk_mem_zipIdx_iff_getElem?.mpr h)
  · rintro ⟨h, rfl⟩
    -- A digit of each range is found by how far it is from the start of the range.
    have hdecimal : ∀ k < 10, HexDigit (Char.ofNat (48 + k)) k := by decide
    have hsmall : ∀ k < 6, HexDigit (Char.ofNat (97 + k)) (10 + k) := by decide
    have hcapital : ∀ k < 6, HexDigit (Char.ofNat (65 + k)) (10 + k) := by decide
    have hrange (low high : Char) :
        (low ≤ d ∧ d ≤ high) ↔ low.toNat ≤ d.toNat ∧ d.toNat ≤ high.toNat := Iff.rfl
    have hlow : 'a' ≤ d ↔ 97 ≤ d.toNat := Iff.rfl
    simp only [Text.isHexDigit, Bool.or_eq_true, Bool.and_eq_true, decide_eq_true_eq, hrange,
      Text.isDigit_iff, Char.reduceToNat] at h
    simp only [Text.digitValue, Text.isDigit_iff, hlow]
    split_ifs with hd ha
    · have hdigit := hdecimal (d.toNat - 48) (by omega)
      rwa [Nat.add_sub_cancel' hd.1, Char.ofNat_toNat] at hdigit
    · have hdigit := hsmall (d.toNat - 97) (by omega)
      rwa [Nat.add_sub_cancel' ha, Char.ofNat_toNat,
        show 10 + (d.toNat - 97) = d.toNat - 87 by omega] at hdigit
    · have hdigit := hcapital (d.toNat - 65) (by omega)
      rwa [Nat.add_sub_cancel' (by omega), Char.ofNat_toNat,
        show 10 + (d.toNat - 65) = d.toNat - 55 by omega] at hdigit

theorem hexNumber_iff {digits : List Char} {n : Nat} :
    HexNumber digits n ↔ (∀ d ∈ digits, Text.isHexDigit d = true) ∧ Text.hexValue digits = n := by
  constructor
  · intro h
    induction h with
    | nil => exact ⟨by simp, rfl⟩
    | snoc _ hd ih =>
      obtain ⟨hdigits, rfl⟩ := ih
      obtain ⟨hdigit, rfl⟩ := hexDigit_iff.mp hd
      refine ⟨?_, Text.hexValue_append _ _⟩
      simpa [or_imp, forall_and] using ⟨hdigits, hdigit⟩
  · rintro ⟨hdigits, rfl⟩
    induction digits using List.reverseRecOn with
    | nil => exact .nil
    | append_singleton digits d ih =>
      rw [Text.hexValue_append]
      have hlast := hexDigit_iff.mpr ⟨hdigits d (by simp), rfl⟩
      exact .snoc (ih fun d hd => hdigits d (List.mem_append_left _ hd)) hlast

theorem simpleEscape_of_control {e : Char} {n : Nat} (h : (e, n) ∈ controls) :
    simpleEscape e = [n] := by
  have hall : ∀ p ∈ controls, simpleEscape p.1 = [p.2] := by decide
  exact hall _ h

theorem simpleEscape_of_other {e : Char} (h : e ∉ '\n' :: controls.map Prod.fst) :
    simpleEscape e = [e.toNat] := by
  rw [simpleEscape.eq_def]
  split <;> first | rfl | simp [controls] at h

/-- A backslash before a letter that does not announce a number. -/
theorem stringUnit_simpleEscape {q e : Char} (hx : e ≠ 'x') (hu : e ≠ 'u') :
    StringUnit q ['\\', e] (simpleEscape e) := by
  obtain rfl | hline := eq_or_ne e '\n'
  · exact .continuation
  by_cases he : e ∈ controls.map Prod.fst
  · obtain ⟨⟨e, n⟩, hmem, rfl⟩ := List.mem_map.mp he
    rw [simpleEscape_of_control hmem]
    exact .control hmem
  · rw [simpleEscape_of_other (by simp [hline, he])]
    exact .other (by simp [hx, hu, hline, he])

theorem StringUnit.units_append {q : Char} {unit cs : List Char} {ms ns : List Nat}
    (h : StringUnit q unit ms) (hcs : Units q cs ns) : Units q (unit ++ cs) (ms ++ ns) := by
  cases h with
  | raw hq hslash hline => exact .ordinary ⟨hq, hline, hslash⟩ hcs
  | continuation => exact .simple (by decide) (by decide) hcs
  | control he =>
    rw [← simpleEscape_of_control he]
    refine .simple ?_ ?_ hcs
    · rintro rfl
      simp [controls] at he
    · rintro rfl
      simp [controls] at he
  | other he =>
    obtain ⟨hx, hu, he⟩ : _ ≠ 'x' ∧ _ ≠ 'u' ∧ _ ∉ '\n' :: controls.map Prod.fst := by simpa using he
    rw [← simpleEscape_of_other he]
    exact .simple hx hu hcs
  | pair hlength hn =>
    obtain ⟨hdigits, rfl⟩ := hexNumber_iff.mp hn
    exact .numeric (.pair hlength hdigits) hcs
  | four hlength hn =>
    obtain ⟨hdigits, rfl⟩ := hexNumber_iff.mp hn
    exact .numeric (.four hlength hdigits) hcs
  | braced hne hn hle =>
    obtain ⟨hdigits, rfl⟩ := hexNumber_iff.mp hn
    exact .numeric (.braced hne hdigits hle) hcs

theorem NumericEscape.stringUnit {q : Char} {escape : List Char} {n : Nat}
    (h : NumericEscape escape n) : StringUnit q ('\\' :: escape) [n] := by
  cases h with
  | pair hlength hdigits => exact .pair hlength (hexNumber_iff.mpr ⟨hdigits, rfl⟩)
  | four hlength hdigits => exact .four hlength (hexNumber_iff.mpr ⟨hdigits, rfl⟩)
  | braced hne hdigits hle => exact .braced hne (hexNumber_iff.mpr ⟨hdigits, rfl⟩) hle

theorem stringBody_iff {q : Char} {body : List Char} {ns : List Nat} :
    StringBody q body ns ↔ Units q body ns := by
  constructor
  · intro h
    induction h with
    | nil => exact .nil
    | cons hunit _ ih => exact hunit.units_append ih
  · intro h
    induction h with
    | nil => exact .nil
    | ordinary hc _ ih => exact .cons (.raw hc.1 hc.2.2 hc.2.1) ih
    | simple hx hu _ ih => exact .cons (stringUnit_simpleEscape hx hu) ih
    | numeric hescape _ ih => exact .cons hescape.stringUnit ih

/-! ## Values -/

theorem HexNumber.lt_pow {digits : List Char} {n : Nat} (h : HexNumber digits n) :
    n < 16 ^ digits.length := by
  induction h with
  | nil => decide
  | @snoc digits d m n _ hd ih =>
    have hn : n < 16 := by
      obtain hd | hd := hd <;> exact (List.getElem?_eq_some_iff.mp hd).1
    rw [List.length_append, List.length_singleton, Nat.pow_succ]
    omega

theorem toNat_le (c : Char) : c.toNat ≤ 0x10FFFF := by
  have hc : c.toNat < 0xD800 ∨ 0xDFFF < c.toNat ∧ c.toNat < 0x110000 := c.valid
  omega

theorem StringUnit.le {q : Char} {unit : List Char} {ms : List Nat} (h : StringUnit q unit ms) :
    ∀ n ∈ ms, n ≤ 0x10FFFF := by
  cases h with
  | raw => simpa using toNat_le _
  | continuation => simp
  | control he =>
    have hcontrols : ∀ p ∈ controls, p.2 ≤ 0x10FFFF := by decide
    simpa using hcontrols _ he
  | pair hlength hn | four hlength hn =>
    have hlt := hn.lt_pow
    rw [hlength] at hlt
    simpa using show _ ≤ 0x10FFFF by omega
  | braced _ _ hle => simpa using hle
  | other => simpa using toNat_le _

theorem StringBody.le {q : Char} {body : List Char} {ns : List Nat} (h : StringBody q body ns) :
    ∀ n ∈ ns, n ≤ 0x10FFFF := by
  induction h with
  | nil => simp
  | cons hunit _ ih =>
    intro n hn
    obtain hn | hn := List.mem_append.mp hn
    · exact hunit.le n hn
    · exact ih n hn

theorem isHighSurrogate_iff {n : Nat} :
    Text.isHighSurrogate n = true ↔ 0xD800 ≤ n ∧ n < 0xDC00 := by
  simp only [Text.isHighSurrogate, Bool.and_eq_true, decide_eq_true_eq]
  omega

theorem isLowSurrogate_iff {n : Nat} :
    Text.isLowSurrogate n = true ↔ 0xDC00 ≤ n ∧ n < 0xE000 := by
  simp only [Text.isLowSurrogate, Bool.and_eq_true, decide_eq_true_eq]
  omega

theorem toNat_joined {high low : Nat} (hhigh : 0xD800 ≤ high ∧ high < 0xDC00)
    (hlow : 0xDC00 ≤ low ∧ low < 0xE000) : (Text.joined high low).toNat =
      0x10000 + 0x400 * (high - 0xD800) + (low - 0xDC00) :=
  Text.toNat_ofNat (by omega) (by omega)

namespace Joins

variable {n high low : Nat} {ns : List Nat} {cs : List Char}

theorem ofNat (hle : n ≤ 0x10FFFF) (hhigh : ¬Text.isHighSurrogate n = true)
    (hlow : ¬Text.isLowSurrogate n = true) (h : Joins ns cs) :
    Joins (n :: ns) (Char.ofNat n :: cs) := by
  rw [isHighSurrogate_iff] at hhigh
  rw [isLowSurrogate_iff] at hlow
  have hchar := h.char (Char.ofNat n)
  rwa [Text.toNat_ofNat hle (by omega)] at hchar

theorem joined (hhigh : Text.isHighSurrogate high = true) (hlow : Text.isLowSurrogate low = true)
    (h : Joins ns cs) : Joins (high :: low :: ns) (Text.joined high low :: cs) := by
  rw [isHighSurrogate_iff] at hhigh
  rw [isLowSurrogate_iff] at hlow
  exact .pair _ hhigh.1 hhigh.2 hlow.1 hlow.2 (toNat_joined hhigh hlow) h

theorem joinSurrogates_eq (h : Joins ns cs) : Text.joinSurrogates ns = some cs := by
  induction h with
  | nil => rfl
  | char c _ ih =>
    rw [Text.joinSurrogates_toNat_cons, ih]
    rfl
  | pair c hhigh hhigh' hlow hlow' hc _ ih =>
    have hjoined : Text.joined _ _ = c :=
      Char.toNat_inj.mp ((toNat_joined ⟨hhigh, hhigh'⟩ ⟨hlow, hlow'⟩).trans hc.symm)
    rw [Text.joinSurrogates, if_pos (isHighSurrogate_iff.mpr ⟨hhigh, hhigh'⟩),
      if_pos (isLowSurrogate_iff.mpr ⟨hlow, hlow'⟩), ih, hjoined]
    rfl

end Joins

theorem joins_iff {ns : List Nat} (hle : ∀ n ∈ ns, n ≤ 0x10FFFF) {cs : List Char} :
    Joins ns cs ↔ Text.joinSurrogates ns = some cs := by
  refine ⟨Joins.joinSurrogates_eq, fun h => ?_⟩
  induction ns using Text.joinSurrogates.induct generalizing cs with
  | case1 =>
    cases h
    exact .nil
  | case2 n hn => simp [Text.joinSurrogates, hn] at h
  | case3 n hn =>
    rw [Text.joinSurrogates, if_neg hn] at h
    cases h
    rw [Bool.or_eq_true, not_or] at hn
    exact .ofNat (hle n (by simp)) hn.1 hn.2 .nil
  | case4 n m r hhigh hlow ih =>
    rw [Text.joinSurrogates, if_pos hhigh, if_pos hlow] at h
    obtain ⟨cs, hcs, rfl⟩ := Option.map_eq_some_iff.mp h
    exact .joined hhigh hlow (ih (fun n hn => hle n (by simp [hn])) hcs)
  | case5 n m r hhigh hlow =>
    rw [Text.joinSurrogates, if_pos hhigh, if_neg hlow] at h
    cases h
  | case6 n m r hhigh hlow =>
    rw [Text.joinSurrogates, if_neg hhigh, if_pos hlow] at h
    cases h
  | case7 n m r hhigh hlow ih =>
    rw [Text.joinSurrogates, if_neg hhigh, if_neg hlow] at h
    obtain ⟨cs, hcs, rfl⟩ := Option.map_eq_some_iff.mp h
    refine .ofNat (hle n (by simp)) hhigh hlow (ih (fun n hn => hle n ?_) hcs)
    exact List.mem_cons_of_mem _ hn

/-! ## Literals -/

section Literals

variable {q : Char} (hq : q ∈ ['"', '\'', '\x60']) (before cs : List Char)
include hq

theorem isQuote_of_mem : isQuote q = true := by
  simpa [isQuote_iff] using hq

/-- A string is read from a quote, a body and the same quote. -/
theorem take_stringLiteral_of_body {body rest : List Char} {ns : List Nat} {value : String}
    (hbody : StringBody q body ns) (hvalue : Joins ns value.toList) :
    (Cursor.between before (q :: (body ++ q :: rest))).take stringLiteral =
      (.ok value, .between (before ++ q :: (body ++ [q])) rest) := by
  have hliteral := stringLiteral_of_units (isQuote_of_mem hq) (stringBody_iff.mp hbody)
    hvalue.joinSurrogates_eq rest
  rw [String.ofList_toList] at hliteral
  have hforward := Cursor.forward_between before (q :: (body ++ [q])) rest
  simp only [List.cons_append, List.append_assoc, List.nil_append, List.length_cons,
    List.length_append, List.length_nil] at hforward
  rw [Cursor.take, Cursor.between, hliteral]
  exact Prod.ext rfl hforward

theorem body_or_fault :
    (∃ body ns value rest, cs = body ++ q :: rest ∧ StringBody q body ns ∧ Joins ns value) ∨
    ∃ fault c, (Cursor.between before (q :: cs)).take stringLiteral = (.error fault, c) ∧
      fault.cause ∈ [.unterminatedString, .invalidEscape, .unpairedSurrogate] := by
  have hreads := readsString_stringLiteral (isQuote_of_mem hq) cs
  rw [Cursor.take, Cursor.between]
  generalize stringLiteral (q :: cs) = scan at hreads ⊢
  cases hreads with
  | string hunits hvalue =>
    have hbody := stringBody_iff.mpr hunits
    exact .inl ⟨_, _, _, _, rfl, hbody, (joins_iff hbody.le).mpr hvalue⟩
  | unpaired | unclosed | badEscape => exact .inr ⟨_, _, rfl, by simp⟩

/-- A cursor before a quote reads a string exactly if there is one, moves behind its closing quote
and gives what the code points of its units make; else it finds a fault. -/
theorem take_stringLiteral_iff :
    (∀ value c, (Cursor.between before (q :: cs)).take stringLiteral = (.ok value, c) ↔
      ∃ body ns rest, cs = body ++ q :: rest ∧ StringBody q body ns ∧ Joins ns value.toList ∧
        c = .between (before ++ q :: (body ++ [q])) rest) ∧
    ((¬ ∃ body ns value rest, cs = body ++ q :: rest ∧ StringBody q body ns ∧ Joins ns value) →
      ∃ fault c, (Cursor.between before (q :: cs)).take stringLiteral = (.error fault, c) ∧
        fault.cause ∈ [.unterminatedString, .invalidEscape, .unpairedSurrogate]) := by
  have hcases := body_or_fault hq before cs
  refine ⟨fun value c => ⟨fun h => ?_, ?_⟩, hcases.resolve_left⟩
  · obtain ⟨body, ns, value', rest, rfl, hbody, hvalue⟩ | ⟨fault, c', hfault, -⟩ := hcases
    · have hvalue' : Joins ns (String.ofList value').toList := by rwa [String.toList_ofList]
      obtain ⟨hok, rfl⟩ :=
        Prod.mk.inj (h.symm.trans (take_stringLiteral_of_body hq before hbody hvalue'))
      obtain rfl := Except.ok.inj hok
      exact ⟨body, ns, rest, rfl, hbody, hvalue', rfl⟩
    · rw [h] at hfault
      cases hfault
  · rintro ⟨body, ns, rest, rfl, hbody, hvalue, rfl⟩
    exact take_stringLiteral_of_body hq before hbody hvalue

end Literals

/-- Leading zeros in braces, and a pair whose halves are spelled in two ways on two lines; nothing
closes a quote at the end. -/
theorem take_stringLiteral_halves :
    (Cursor.between ['='] "'\\u\x7b00041\x7d\\ud83d\\\n\\u\x7bDE00\x7d';".toList).take
        stringLiteral =
      (.ok (String.ofList ['A', Char.ofNat 0x1F600]),
        .between "='\\u\x7b00041\x7d\\ud83d\\\n\\u\x7bDE00\x7d'".toList [';']) ∧
    ∃ fault c, (Cursor.between ['='] ['\'']).take stringLiteral = (.error fault, c) ∧
      fault.cause ∈ [.unterminatedString, .invalidEscape, .unpairedSurrogate] := by
  have hquote : '\'' ∈ ['"', '\'', '\x60'] := by decide
  have hcapital : HexNumber "00041".toList 0x41 :=
    hexNumber_iff.mpr ⟨by simp [Text.isHexDigit], rfl⟩
  have hfirst : HexNumber "d83d".toList 0xD83D :=
    hexNumber_iff.mpr ⟨by simp [Text.isHexDigit], rfl⟩
  have hsecond : HexNumber "DE00".toList 0xDE00 :=
    hexNumber_iff.mpr ⟨by simp [Text.isHexDigit], rfl⟩
  have hletter : StringUnit '\'' "\\u\x7b00041\x7d".toList [0x41] :=
    .braced (by decide) hcapital (by decide)
  have hhigh : StringUnit '\'' "\\ud83d".toList [0xD83D] := .four rfl hfirst
  have hlow : StringUnit '\'' "\\u\x7bDE00\x7d".toList [0xDE00] :=
    .braced (by decide) hsecond (by decide)
  have hbody := StringBody.cons hletter (.cons hhigh (.cons .continuation (.cons hlow .nil)))
  have hvalue : Joins [0x41, 0xD83D, 0xDE00] ['A', Char.ofNat 0x1F600] :=
    .char 'A' (.pair _ (by decide) (by decide) (by decide) (by decide) rfl .nil)
  constructor
  · refine ((take_stringLiteral_iff hquote _ _).1 _ _).mpr ⟨_, _, [';'], ?_, hbody, ?_, ?_⟩
    · rfl
    · rwa [String.toList_ofList]
    · rfl
  · refine (take_stringLiteral_iff hquote ['='] []).2 ?_
    rintro ⟨body, -, -, rest, hnil, -⟩
    simp at hnil

end SchemaGrammar.Source
