import Mathlib.Data.List.TakeWhile
import SchemaGrammar.Source.Tokens

/-!
# What strings hold and where they end

A string holds a row of units: characters that stand for themselves, and escapes. It is read unit by
unit, up to its closing quote, to a place where it cannot go on, or to a bad escape. What follows
the closing quote does not matter.
-/
namespace SchemaGrammar.Source

/-! ## Escapes by number -/

theorem fixedCodePoint_append {digits : List Char} (h : ∀ d ∈ digits, Text.isHexDigit d = true)
    (rest : List Char) : fixedCodePoint digits.length (digits ++ rest) =
      ⟨.ok (Text.hexValue digits), digits.length⟩ := by
  rw [fixedCodePoint, List.take_left, List.takeWhile_eq_self_iff.mpr h, if_pos rfl]

theorem exists_fixedDigits {width n : Nat} {cs : List Char}
    (h : (fixedCodePoint width cs).outcome = .ok n) : ∃ digits rest, cs = digits ++ rest ∧
      digits.length = width ∧ ∀ d ∈ digits, Text.isHexDigit d = true := by
  rw [fixedCodePoint] at h
  split_ifs at h with hlength
  -- the digits are all that was looked at, since there are as many
  have htake : (cs.take width).takeWhile Text.isHexDigit = cs.take width := by
    refine (List.takeWhile_prefix _).eq_of_length_le ?_
    rw [hlength]
    exact List.length_take_le _ _
  rw [htake] at hlength
  exact ⟨cs.take width, cs.drop width, (List.take_append_drop _ _).symm, hlength,
    List.takeWhile_eq_self_iff.mp htake⟩

theorem bracedCodePoint_append {digits : List Char} (h : ∀ d ∈ digits, Text.isHexDigit d = true)
    (rest : List Char) : bracedCodePoint (digits ++ '\x7d' :: rest) =
      if digits ≠ [] && Text.hexValue digits ≤ 0x10FFFF then
        ⟨.ok (Text.hexValue digits), digits.length + 1⟩
      else ⟨.error (.invalidEscape, 0), digits.length + 1⟩ := by
  have hdigits : (digits ++ '\x7d' :: rest).takeWhile Text.isHexDigit = digits := by
    rw [List.takeWhile_append_of_pos h, List.takeWhile_cons_of_neg (by decide), List.append_nil]
  simp only [bracedCodePoint, hdigits, List.drop_left]

theorem exists_bracedDigits {n : Nat} {cs : List Char}
    (h : (bracedCodePoint cs).outcome = .ok n) : ∃ digits rest, cs = digits ++ '\x7d' :: rest ∧
      ∀ d ∈ digits, Text.isHexDigit d = true := by
  rw [bracedCodePoint] at h
  split at h
  · next rest hrest =>
    refine ⟨cs.takeWhile Text.isHexDigit, rest, ?_, fun d hd => List.mem_takeWhile_imp hd⟩
    rw [← hrest, List.prefix_iff_eq_append.mp (List.takeWhile_prefix _)]
  · cases h

theorem codePoint_pair {digits : List Char} (hlength : digits.length = 2)
    (h : ∀ d ∈ digits, Text.isHexDigit d = true) (rest : List Char) :
    codePoint ('x' :: (digits ++ rest)) = ⟨.ok (Text.hexValue digits), 3⟩ := by
  have hfixed := fixedCodePoint_append h rest
  rw [hlength] at hfixed
  simp only [codePoint, hfixed]

theorem codePoint_four {e : Char} (he : e ≠ 'x') {digits : List Char} (hlength : digits.length = 4)
    (h : ∀ d ∈ digits, Text.isHexDigit d = true) (rest : List Char) :
    codePoint (e :: (digits ++ rest)) = ⟨.ok (Text.hexValue digits), 5⟩ := by
  have hfixed := fixedCodePoint_append h rest
  rw [hlength] at hfixed
  rw [codePoint.eq_def]
  split
  · next heq => cases heq
  · next heq => exact absurd (List.cons.inj heq).1 he
  · next heq =>
    -- a brace after the letter would have to be the first of the digits
    have hbrace : '\x7b' ∈ digits := by
      cases digits with
      | nil => cases hlength
      | cons d digits =>
        cases heq
        exact List.mem_cons_self
    cases h _ hbrace
  · next heq =>
    cases heq
    rw [hfixed]

theorem codePoint_braced {e : Char} (he : e ≠ 'x') (cs : List Char) :
    codePoint (e :: '\x7b' :: cs) =
      ⟨(bracedCodePoint cs).outcome, (bracedCodePoint cs).used + 2⟩ := by
  rw [codePoint]
  exact he

/-- The characters of an escape by number behind its backslash, and the code point that it gives. -/
inductive NumericEscape : List Char → Nat → Prop
  | pair {digits} : digits.length = 2 → (∀ d ∈ digits, Text.isHexDigit d = true) →
      NumericEscape ('x' :: digits) (Text.hexValue digits)
  | four {digits} : digits.length = 4 → (∀ d ∈ digits, Text.isHexDigit d = true) →
      NumericEscape ('u' :: digits) (Text.hexValue digits)
  | braced {digits} : digits ≠ [] → (∀ d ∈ digits, Text.isHexDigit d = true) →
      Text.hexValue digits ≤ 0x10FFFF →
      NumericEscape ('u' :: '\x7b' :: (digits ++ ['\x7d'])) (Text.hexValue digits)

theorem NumericEscape.codePoint_eq {escape : List Char} {n : Nat} (h : NumericEscape escape n)
    (rest : List Char) : codePoint (escape ++ rest) = ⟨.ok n, escape.length⟩ := by
  cases h with
  | pair hlength hdigits =>
    rw [List.cons_append, codePoint_pair hlength hdigits, List.length_cons, hlength]
  | four hlength hdigits =>
    rw [List.cons_append, codePoint_four (by decide) hlength hdigits, List.length_cons, hlength]
  | braced hne hdigits hle =>
    rw [List.cons_append, List.cons_append, List.append_assoc, List.singleton_append,
      codePoint_braced (by decide), bracedCodePoint_append hdigits, if_pos (by simp [hne, hle])]
    simp

/-- What is read as a code point is an escape. -/
theorem exists_numericEscape {e : Char} (he : e = 'x' ∨ e = 'u') {cs : List Char} {n used : Nat}
    (h : codePoint (e :: cs) = ⟨.ok n, used⟩) :
    ∃ escape rest, e :: cs = escape ++ rest ∧ NumericEscape escape n := by
  have houtcome : (codePoint (e :: cs)).outcome = .ok n := by rw [h]
  rw [codePoint.eq_def] at houtcome
  dsimp only at houtcome
  split at houtcome
  · cases houtcome
  · next heq =>
    obtain ⟨rfl, rfl⟩ := List.cons.inj heq
    obtain ⟨digits, rest, rfl, hlength, hdigits⟩ := exists_fixedDigits houtcome
    cases (codePoint_pair hlength hdigits rest).symm.trans h
    exact ⟨'x' :: digits, rest, rfl, .pair hlength hdigits⟩
  · next hx heq =>
    obtain ⟨rfl, rfl⟩ := List.cons.inj heq
    obtain rfl : e = 'u' := he.resolve_left hx
    obtain ⟨digits, rest, rfl, hdigits⟩ := exists_bracedDigits houtcome
    rw [codePoint_braced hx, bracedCodePoint_append hdigits] at h
    split_ifs at h with hvalue
    · obtain ⟨hne, hle⟩ : digits ≠ [] ∧ Text.hexValue digits ≤ 0x10FFFF := by simpa using hvalue
      cases h
      exact ⟨_, rest, by simp, .braced hne hdigits hle⟩
    · cases h
  · next hx hbrace heq =>
    obtain ⟨rfl, rfl⟩ := List.cons.inj heq
    obtain rfl : e = 'u' := he.resolve_left hx
    obtain ⟨digits, rest, rfl, hlength, hdigits⟩ := exists_fixedDigits houtcome
    cases (codePoint_four hx hlength hdigits rest).symm.trans h
    exact ⟨'u' :: digits, rest, rfl, .four hlength hdigits⟩

theorem NumericEscape.exists_cons {escape : List Char} {n : Nat} (h : NumericEscape escape n) :
    ∃ e cs, escape = e :: cs ∧ (e = 'x' ∨ e = 'u') := by
  cases h with
  | pair => exact ⟨_, _, rfl, .inl rfl⟩
  | four => exact ⟨_, _, rfl, .inr rfl⟩
  | braced => exact ⟨_, _, rfl, .inr rfl⟩

/-! ## Units -/

def IsOrdinary (q c : Char) : Prop := c ≠ q ∧ (c = '\n' → q = '\x60') ∧ c ≠ '\\'

inductive Units (q : Char) : List Char → List Nat → Prop
  | nil : Units q [] []
  | ordinary {c cs ns} : IsOrdinary q c → Units q cs ns → Units q (c :: cs) (c.toNat :: ns)
  | simple {e cs ns} : e ≠ 'x' → e ≠ 'u' → Units q cs ns →
      Units q ('\\' :: e :: cs) (simpleEscape e ++ ns)
  | numeric {escape n cs ns} : NumericEscape escape n → Units q cs ns →
      Units q ('\\' :: (escape ++ cs)) (n :: ns)

/-- Where a string with quote `q` cannot go on: at the end of the text, perhaps behind a backslash,
or at a line end, if the quote does not allow for one. -/
def Unclosed (q : Char) (cs : List Char) : Prop :=
  cs = [] ∨ cs = ['\\'] ∨ q ≠ '\x60' ∧ cs.head? = some '\n'

def BadEscape (cs : List Char) : Prop :=
  ∃ e r, cs = '\\' :: e :: r ∧ (e = 'x' ∨ e = 'u') ∧
    ∀ escape n rest, NumericEscape escape n → e :: r ≠ escape ++ rest

theorem stringContent_ordinary {q c : Char} (h : IsOrdinary q c) (cs : List Char) :
    stringContent q (c :: cs) = (stringContent q cs).after [c.toNat] 1 := by
  obtain ⟨hq, hline, hslash⟩ := h
  rw [stringContent.eq_def]
  dsimp only
  rw [if_neg hq, if_neg, if_neg hslash]
  simpa using hline

theorem stringContent_simpleEscape {q e : Char} (hq : q ≠ '\\') (hx : e ≠ 'x') (hu : e ≠ 'u')
    (cs : List Char) :
    stringContent q ('\\' :: e :: cs) = (stringContent q cs).after (simpleEscape e) 2 := by
  rw [stringContent]
  simp [hq.symm, hx, hu]

theorem stringContent_numericEscape {q : Char} (hq : q ≠ '\\') {escape : List Char} {n : Nat}
    (h : NumericEscape escape n) (cs : List Char) :
    stringContent q ('\\' :: (escape ++ cs)) =
      (stringContent q cs).after [n] (escape.length + 1) := by
  have hcode := h.codePoint_eq cs
  obtain ⟨e, digits, rfl, he⟩ := h.exists_cons
  rw [List.cons_append] at hcode ⊢
  rw [stringContent]
  simp [hq.symm, he, hcode]

theorem stringContent_quote (q : Char) (cs : List Char) :
    stringContent q (q :: cs) = .closed [] 1 := by
  rw [stringContent.eq_def]
  exact if_pos rfl

theorem Content.after_after (t : Content) (ns ms : List Nat) (k l : Nat) :
    (t.after ns k).after ms l = t.after (ms ++ ns) (k + l) := by
  cases t <;> simp [after, Nat.add_assoc]

/-- Units are read one by one, and then what follows them. -/
theorem Units.stringContent_append {q : Char} (hq : q ≠ '\\') {body : List Char} {ns : List Nat}
    (h : Units q body ns) (cs : List Char) :
    stringContent q (body ++ cs) = (stringContent q cs).after ns body.length := by
  induction h with
  | nil =>
    rw [List.nil_append]
    cases stringContent q cs <;> simp [Content.after]
  | ordinary hc _ ih =>
    rw [List.cons_append, stringContent_ordinary hc, ih, Content.after_after]
    rfl
  | simple hx hu _ ih =>
    rw [List.cons_append, List.cons_append, stringContent_simpleEscape hq hx hu, ih,
      Content.after_after]
    rfl
  | numeric hescape _ ih =>
    rw [List.cons_append, List.append_assoc, stringContent_numericEscape hq hescape, ih,
      Content.after_after, List.length_cons, List.length_append]
    congr 1
    omega

theorem Unclosed.exists_stringContent {q : Char} (hslash : q ≠ '\\') (hline : q ≠ '\n')
    {cs : List Char} (h : Unclosed q cs) : ∃ used, stringContent q cs = .unclosed used := by
  obtain rfl | rfl | ⟨hq, hhead⟩ := h
  · exact ⟨0, by rw [stringContent]⟩
  · exact ⟨1, by simp [stringContent, hslash.symm]⟩
  · obtain ⟨r, rfl⟩ := List.head?_eq_some_iff.mp hhead
    exact ⟨0, by simp [stringContent.eq_def, hline.symm, hq]⟩

theorem BadEscape.exists_stringContent {q : Char} (hslash : q ≠ '\\') {cs : List Char}
    (h : BadEscape cs) : ∃ used, stringContent q cs = .badEscape 0 used := by
  obtain ⟨e, r, rfl, he, hnone⟩ := h
  cases hcode : codePoint (e :: r) with
  | mk outcome used =>
    cases outcome with
    | error e' => exact ⟨used + 1, by rw [stringContent]; simp [hslash.symm, he, hcode]⟩
    | ok n =>
      obtain ⟨escape, rest, heq, hescape⟩ := exists_numericEscape he hcode
      exact absurd heq (hnone _ _ _ hescape)

/-- Characters begin with units, as far as the string that they continue goes. -/
theorem exists_units (q : Char) (cs : List Char) : ∃ body rest ns, cs = body ++ rest ∧
    Units q body ns ∧ (rest.head? = some q ∨ Unclosed q rest ∨ BadEscape rest) := by
  induction cs using stringContent.induct q with
  | case1 => exact ⟨[], [], [], rfl, .nil, .inr (.inl (.inl rfl))⟩
  | case2 r => exact ⟨[], _, [], rfl, .nil, .inl rfl⟩
  | case3 c r hq hline =>
    obtain ⟨rfl, hback⟩ : c = '\n' ∧ q ≠ '\x60' := by simpa using hline
    exact ⟨[], _, [], rfl, .nil, .inr (.inl (.inr (.inr ⟨hback, rfl⟩)))⟩
  | case4 hq hline => exact ⟨[], _, [], rfl, .nil, .inr (.inl (.inr (.inl rfl)))⟩
  | case5 e r he e' used hcode hq hline =>
    refine ⟨[], _, [], rfl, .nil, .inr (.inr ⟨e, r, rfl, by simpa using he, ?_⟩)⟩
    intro escape n rest hescape heq
    rw [heq, hescape.codePoint_eq] at hcode
    cases hcode
  | case6 e r he n used hcode hq hline ih =>
    obtain ⟨escape, rest, heq, hescape⟩ := exists_numericEscape (by simpa using he) hcode
    have hused := hescape.codePoint_eq rest
    rw [← heq, hcode, Scan.mk.injEq] at hused
    rw [heq, hused.2, List.drop_left] at ih
    obtain ⟨body, rest, ns, rfl, hbody, hend⟩ := ih
    exact ⟨'\\' :: (escape ++ body), rest, n :: ns, by simp [heq], .numeric hescape hbody, hend⟩
  | case7 e r he hq hline ih =>
    obtain ⟨hx, hu⟩ : e ≠ 'x' ∧ e ≠ 'u' := by simpa using he
    obtain ⟨body, rest, ns, rfl, hbody, hend⟩ := ih
    exact ⟨'\\' :: e :: body, rest, _, rfl, .simple hx hu hbody, hend⟩
  | case8 c r hq hline hslash ih =>
    obtain ⟨body, rest, ns, rfl, hbody, hend⟩ := ih
    have hc : IsOrdinary q c := ⟨hq, by simpa using hline, hslash⟩
    exact ⟨c :: body, rest, _, rfl, .ordinary hc hbody, hend⟩

/-! ## Literals -/

theorem isQuote_iff {c : Char} : isQuote c = true ↔ c = '"' ∨ c = '\'' ∨ c = '\x60' := by
  simp [isQuote, or_assoc]

theorem ne_of_isQuote {q : Char} (hq : isQuote q = true) : q ≠ '\\' ∧ q ≠ '\n' := by
  obtain rfl | rfl | rfl := isQuote_iff.mp hq <;> decide

/-- What is read as a string, or why there is none and before which of its characters. -/
inductive ReadsString (q : Char) : List Char → Scan String → Prop
  | string {body ns value rest} : Units q body ns → Text.joinSurrogates ns = some value →
      ReadsString q (body ++ q :: rest) ⟨.ok (String.ofList value), body.length + 2⟩
  | unpaired {body ns rest used} : Units q body ns → Text.joinSurrogates ns = none →
      ReadsString q (body ++ q :: rest) ⟨.error (.unpairedSurrogate, 0), used⟩
  | unclosed {body ns rest used} : Units q body ns → Unclosed q rest →
      ReadsString q (body ++ rest) ⟨.error (.unterminatedString, 0), used⟩
  | badEscape {body ns rest used} : Units q body ns → BadEscape rest →
      ReadsString q (body ++ rest) ⟨.error (.invalidEscape, body.length + 1), used⟩

section Literal

variable {q : Char} (hq : isQuote q = true) {body : List Char} {ns : List Nat} (h : Units q body ns)
  {rest : List Char}
include hq h

theorem stringLiteral_of_units {value : List Char} (hvalue : Text.joinSurrogates ns = some value)
    (rest : List Char) : stringLiteral (q :: (body ++ q :: rest)) =
      ⟨.ok (String.ofList value), body.length + 2⟩ := by
  rw [stringLiteral, h.stringContent_append (ne_of_isQuote hq).1, stringContent_quote]
  simp [Content.after, hvalue]
  omega

theorem exists_stringLiteral_unpaired (hvalue : Text.joinSurrogates ns = none) :
    ∃ used, stringLiteral (q :: (body ++ q :: rest)) =
      ⟨.error (.unpairedSurrogate, 0), used⟩ := by
  rw [stringLiteral, h.stringContent_append (ne_of_isQuote hq).1, stringContent_quote]
  simp [Content.after, hvalue]

theorem exists_stringLiteral_unclosed (hrest : Unclosed q rest) :
    ∃ used, stringLiteral (q :: (body ++ rest)) = ⟨.error (.unterminatedString, 0), used⟩ := by
  obtain ⟨hslash, hline⟩ := ne_of_isQuote hq
  obtain ⟨used, hused⟩ := hrest.exists_stringContent hslash hline
  rw [stringLiteral, h.stringContent_append hslash, hused]
  exact ⟨_, rfl⟩

theorem exists_stringLiteral_badEscape (hrest : BadEscape rest) :
    ∃ used, stringLiteral (q :: (body ++ rest)) =
      ⟨.error (.invalidEscape, body.length + 1), used⟩ := by
  have hslash := (ne_of_isQuote hq).1
  obtain ⟨used, hused⟩ := hrest.exists_stringContent hslash
  rw [stringLiteral, h.stringContent_append hslash, hused]
  simp [Content.after]

end Literal

/-- A string is read unit by unit, up to its closing quote or to what is at fault. -/
theorem readsString_stringLiteral {q : Char} (hq : isQuote q = true) (cs : List Char) :
    ReadsString q cs (stringLiteral (q :: cs)) := by
  obtain ⟨body, rest, ns, rfl, hbody, hhead | hunclosed | hbad⟩ := exists_units q cs
  · obtain ⟨rest, rfl⟩ := List.head?_eq_some_iff.mp hhead
    cases hvalue : Text.joinSurrogates ns with
    | some value =>
      rw [stringLiteral_of_units hq hbody hvalue]
      exact .string hbody hvalue
    | none =>
      obtain ⟨used, hused⟩ := exists_stringLiteral_unpaired hq hbody hvalue
      rw [hused]
      exact .unpaired hbody hvalue
  · obtain ⟨used, hused⟩ := exists_stringLiteral_unclosed hq hbody hunclosed
    rw [hused]
    exact .unclosed hbody hunclosed
  · obtain ⟨used, hused⟩ := exists_stringLiteral_badEscape hq hbody hbad
    rw [hused]
    exact .badEscape hbody hbad

/-- A string is read alike whatever follows it, and its last character is its quote. -/
theorem stringLiteral_eq_ok {q : Char} (hq : isQuote q = true) {cs : List Char} {value : String}
    {used : Nat} (h : stringLiteral (q :: cs) = ⟨.ok value, used⟩) :
    ∃ body rest, cs = body ++ q :: rest ∧ used = body.length + 2 ∧
      ∀ rest', stringLiteral (q :: (body ++ q :: rest')) = ⟨.ok value, used⟩ := by
  have hreads := readsString_stringLiteral hq cs
  rw [h] at hreads
  cases hreads with
  | string hbody hvalue => exact ⟨_, _, rfl, rfl, stringLiteral_of_units hq hbody hvalue⟩

end SchemaGrammar.Source
