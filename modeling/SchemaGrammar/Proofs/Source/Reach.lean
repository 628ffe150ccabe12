import SchemaGrammar.Proofs.Source.Padding
import SchemaGrammar.Proofs.Source.StringEnds

/-!
# How far a token reaches

`Spelled` says which characters are one token: a string reaches to its closing quote, a number or a
word as far as there are characters of its class, and every other token is one character. Scanning
reads just these.
-/
namespace SchemaGrammar.Source

/-- Whether the characters `chars`, with `rest` after them, are a token with this lexeme. -/
inductive Spelled (rest : List Char) : Lexeme → List Char → Prop
  | string {q body value} : isQuote q = true →
      stringLiteral (q :: (body ++ [q])) = ⟨.ok value, body.length + 2⟩ →
      Spelled rest (.string, value) (q :: (body ++ [q]))
  | number {c taken} : Text.isDigit c = true → (∀ x ∈ taken, isNumberPart x = true) →
      (∀ x ∈ rest.head?, isNumberPart x = false) →
      Spelled rest (.number, String.ofList (c :: taken)) (c :: taken)
  | word {c taken} : isWordStart c = true → (∀ x ∈ taken, isWordPart x = true) →
      (∀ x ∈ rest.head?, isWordPart x = false) →
      Spelled rest (.word (String.ofList (c :: taken))) (c :: taken)
  | mark (m : Mark) : Spelled rest (.mark m) [m.char]
  | symbol {c} : Text.isBlank c = false → ¬ BeginsComment (c :: rest) → isQuote c = false →
      Text.isDigit c = false → isWordStart c = false → Mark.ofChar? c = none →
      Spelled rest (.symbol, String.ofList [c]) [c]

theorem isQuote_of_isDigit {c : Char} (h : Text.isDigit c = true) : isQuote c = false := by
  rw [← Bool.not_eq_true, isQuote_iff]
  rintro (rfl | rfl | rfl) <;> cases h

theorem Mark.ofChar?_eq_some {c : Char} {m : Mark} : Mark.ofChar? c = some m ↔ m.char = c := by
  constructor
  · intro h
    simpa using List.find?_some h
  · rintro rfl
    cases m <;> rfl

/-- A word or number of a text ends where its class does. -/
theorem exists_takeWhile (p : Char → Bool) (cs : List Char) :
    ∃ taken rest, cs = taken ++ rest ∧ cs.takeWhile p = taken ∧ (∀ x ∈ taken, p x = true) ∧
      ∀ x ∈ rest.head?, p x = false := by
  refine ⟨cs.takeWhile p, cs.dropWhile p, List.takeWhile_append_dropWhile.symm, rfl,
    fun x hx => List.mem_takeWhile_imp hx, fun x hx => ?_⟩
  rw [← List.find?_not_eq_head?_dropWhile] at hx
  simpa using List.find?_some hx

/-- Where a token is scanned, its characters are the token. -/
theorem exists_spelled {c : Char} {r : List Char} {l : Lexeme} {used : Nat}
    (hunpadded : Unpadded (c :: r)) (h : tokenScan c r = ⟨.ok l, used⟩) :
    ∃ taken rest, r = taken ++ rest ∧ used = taken.length + 1 ∧ Spelled rest l (c :: taken) := by
  obtain ⟨hblank, hcomment⟩ := unpadded_cons_iff.mp hunpadded
  rw [tokenScan] at h
  split_ifs at h with hquote
  · cases hscan : stringLiteral (c :: r) with
    | mk outcome k =>
      rw [hscan] at h
      cases outcome with
      | error e => cases h
      | ok value =>
        cases h
        obtain ⟨body, rest, rfl, hk, hall⟩ := stringLiteral_eq_ok hquote hscan
        refine ⟨body ++ [c], rest, by simp, by simpa using hk, .string hquote ?_⟩
        rw [hall [], hk]
  · rw [Bool.not_eq_true] at hquote
    rw [plainToken] at h
    split_ifs at h with hdigit hword
    · obtain ⟨taken, rest, rfl, htaken, hall, hstop⟩ := exists_takeWhile isNumberPart r
      rw [htaken] at h
      cases h
      exact ⟨taken, rest, rfl, rfl, .number hdigit hall hstop⟩
    · obtain ⟨taken, rest, rfl, htaken, hall, hstop⟩ := exists_takeWhile isWordPart r
      rw [htaken] at h
      cases h
      exact ⟨taken, rest, rfl, rfl, .word hword hall hstop⟩
    · rw [Bool.not_eq_true] at hdigit hword
      cases hmark : Mark.ofChar? c with
      | some m =>
        rw [hmark] at h
        cases h
        obtain rfl := Mark.ofChar?_eq_some.mp hmark
        exact ⟨[], r, rfl, rfl, .mark m⟩
      | none =>
        rw [hmark] at h
        cases h
        exact ⟨[], r, rfl, rfl, .symbol hblank hcomment hquote hdigit hword hmark⟩

/-- A token is scanned from its characters. -/
theorem Spelled.tokenScan_eq {rest : List Char} {l : Lexeme} {c : Char} {taken : List Char}
    (h : Spelled rest l (c :: taken)) :
    tokenScan c (taken ++ rest) = ⟨.ok l, taken.length + 1⟩ := by
  cases h with
  | @string _ body value hquote hscan =>
    obtain ⟨body', rest', hbody, hlength, hall⟩ := stringLiteral_eq_ok hquote hscan
    obtain ⟨rfl, -⟩ := List.append_inj hbody (by omega)
    rw [tokenScan, if_pos hquote, List.append_assoc, List.singleton_append, hall]
    simp [Except.map]
  | number hdigit hall hstop =>
    rw [tokenScan, if_neg (by simp [isQuote_of_isDigit hdigit]), plainToken, if_pos hdigit,
      takeWhile_append_of_head? hall hstop]
  | word hword hall hstop =>
    rw [tokenScan, if_neg (by simp [isQuote_of_isWordStart hword]), plainToken,
      if_neg (by simp [isDigit_of_isWordStart hword]), if_pos hword,
      takeWhile_append_of_head? hall hstop]
    rfl
  | mark m => exact tokenScan_mark m rest
  | symbol _ _ hquote hdigit hword hmark =>
    simp [tokenScan, plainToken, hquote, hdigit, hword, hmark]

theorem Spelled.unpadded {rest : List Char} {l : Lexeme} {chars : List Char}
    (h : Spelled rest l chars) : Unpadded (chars ++ rest) := by
  cases h with
  | string hquote _ =>
    obtain rfl | rfl | rfl := isQuote_iff.mp hquote <;> exact unpadded_of_ne_slash rfl (by decide)
  | number hdigit _ _ =>
    refine unpadded_of_ne_slash ?_ ?_
    · rw [← Bool.not_eq_true]
      intro hblank
      rw [Text.isDigit_of_isBlank hblank] at hdigit
      cases hdigit
    · rintro rfl
      cases hdigit
  | word hword _ _ =>
    refine unpadded_of_ne_slash (isBlank_of_isWordStart hword) ?_
    rintro rfl
    cases hword
  | mark m => cases m <;> exact unpadded_of_ne_slash rfl (by decide)
  | symbol hblank hcomment _ _ _ _ => exact unpadded_cons_iff.mpr ⟨hblank, hcomment⟩

theorem Spelled.ne_nil {rest : List Char} {l : Lexeme} {chars : List Char}
    (h : Spelled rest l chars) : chars ≠ [] := by
  cases h <;> simp

end SchemaGrammar.Source
