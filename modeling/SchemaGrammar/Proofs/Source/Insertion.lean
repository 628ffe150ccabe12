import SchemaGrammar.Proofs.Source.Tiling

/-!
# Padding between tokens does not matter

A blank and more padding may be put in front of any token of a text: the token before it is cut off
where it ended, and no comment begins where none began.
-/
namespace SchemaGrammar.Source

/-- A blank, and padding after it. -/
def Separator (cs : List Char) : Prop :=
  ∃ c pad, cs = c :: pad ∧ Text.isBlank c = true ∧ Padding pad

theorem Separator.padding {cs : List Char} (h : Separator cs) : Padding cs := by
  obtain ⟨c, pad, rfl, hc, hpad⟩ := h
  exact .blank hc hpad

theorem isNumberPart_of_isBlank {c : Char} (h : Text.isBlank c = true) :
    isNumberPart c = false := by
  have hletter := Text.isLetterOrNumber_of_isBlank h
  have hdot : c ≠ '.' := by
    rintro rfl
    cases h
  have hunderscore : c ≠ '_' := by
    rintro rfl
    cases h
  simp [isNumberPart, hletter, hdot, hunderscore]

theorem beginsComment_cons {c : Char} {cs : List Char} :
    BeginsComment (c :: cs) ↔ c = '/' ∧ (cs.head? = some '/' ∨ cs.head? = some '*') := by
  cases cs <;> simp [BeginsComment, ← and_or_left, eq_comm]

/-- A token stays one if what comes after it is what came before, or a blank. -/
theorem Spelled.of_head? {rest rest' chars : List Char} {l : Lexeme} (h : Spelled rest l chars)
    (hrest : ∀ c ∈ rest'.head?, rest.head? = some c ∨ Text.isBlank c = true) :
    Spelled rest' l chars := by
  cases h with
  | string hquote hscan => exact .string hquote hscan
  | number hdigit hall hstop =>
    refine .number hdigit hall fun c hc => ?_
    obtain hc' | hblank := hrest c hc
    · exact hstop c hc'
    · exact isNumberPart_of_isBlank hblank
  | word hword hall hstop =>
    refine .word hword hall fun c hc => ?_
    obtain hc' | hblank := hrest c hc
    · exact hstop c hc'
    · exact isWordPart_of_isBlank hblank
  | mark m => exact .mark m
  | symbol hblank hcomment hquote hdigit hword hmark =>
    refine .symbol hblank (fun hcomment' => hcomment ?_) hquote hdigit hword hmark
    rw [beginsComment_cons] at hcomment' ⊢
    refine ⟨hcomment'.1, hcomment'.2.imp (fun hc => ?_) fun hc => ?_⟩
    · obtain hc' | hblank := hrest _ hc
      · exact hc'
      · cases hblank
    · obtain hc' | hblank := hrest _ hc
      · exact hc'
      · cases hblank

/-- The characters `cs`, which come after `before`, are tiled by tokens of these lexemes. -/
def Lexed (before cs : List Char) (ls : List Lexeme) : Prop :=
  ∃ ts, Tiled before cs ts ∧ ts.map Token.lexeme = ls

theorem Lexed.token {before pad chars rest : List Char} {l : Lexeme} {ls : List Lexeme}
    (hpad : Padding pad) (hspelled : Spelled rest l chars)
    (h : Lexed (before ++ pad ++ chars) rest ls) :
    Lexed before (pad ++ (chars ++ rest)) (l :: ls) := by
  obtain ⟨ts, hts, rfl⟩ := h
  exact ⟨_, .token hpad hspelled hts, rfl⟩

namespace Tiled

variable {before cs : List Char} {ts : List Token}

/-- Elsewhere the same characters are tiled by the same lexemes. -/
theorem lexed (h : Tiled before cs ts) (before' : List Char) :
    Lexed before' cs (ts.map Token.lexeme) := by
  induction h generalizing before' with
  | done h => exact ⟨_, .done h, rfl⟩
  | token hpad hspelled _ ih => exact .token hpad hspelled (ih _)

/-- In front of a token that stands after the characters `pre`, a separator may be put. -/
theorem exists_lexed_separated (h : Tiled before cs ts) {t : Token} (ht : t ∈ ts)
    (hkind : t.kind ≠ .endMark) {pre rest : List Char} (hcs : before ++ cs = pre ++ rest)
    (hposition : t.position = Position.after pre) {sep : List Char} (hsep : Separator sep) :
    ∃ mid, before ++ mid = pre ∧ cs = mid ++ rest ∧
      ∀ before', Lexed before' (mid ++ (sep ++ rest)) (ts.map Token.lexeme) := by
  induction h with
  | done =>
    rw [List.mem_singleton] at ht
    subst ht
    exact absurd rfl hkind
  | @token before pad chars rest₀ l ts hpad hspelled htiled ih =>
    obtain rfl | ht := List.mem_cons.mp ht
    · -- the separator goes on with the padding before the token
      rw [← List.append_assoc] at hcs
      obtain rfl := Position.eq_of_after_eq hcs hposition
      obtain rfl := List.append_cancel_left hcs
      refine ⟨pad, rfl, rfl, fun before' => ?_⟩
      rw [← List.append_assoc]
      exact .token (hpad.append hsep.padding) hspelled (htiled.lexed _)
    · have hcs' : before ++ pad ++ chars ++ rest₀ = pre ++ rest := by
        rw [← hcs]
        simp only [List.append_assoc]
      obtain ⟨mid, rfl, rfl, hmid⟩ := ih ht hcs'
      -- what follows the token is as before, or the blank of the separator
      have hspelled' : Spelled (mid ++ (sep ++ rest)) l chars := by
        refine hspelled.of_head? fun c hc => ?_
        cases mid with
        | nil =>
          obtain ⟨c', pad', rfl, hc', -⟩ := hsep
          cases hc
          exact .inr hc'
        | cons d mid => exact .inl hc
      refine ⟨pad ++ (chars ++ mid), ?_, ?_, fun before' => ?_⟩
      · simp only [List.append_assoc]
      · simp only [List.append_assoc]
      · simp only [List.append_assoc]
        exact .token hpad hspelled' (hmid _)

end Tiled

/-- A separator in front of a token leaves the lexemes of a text as they are. -/
theorem exists_tokens_separated {pre sep rest : String} {ts : List Token}
    (h : tokens (pre ++ rest) = .ok ts) {t : Token} (ht : t ∈ ts) (hkind : t.kind ≠ .endMark)
    (hposition : t.position = Position.after pre.toList) (hsep : Separator sep.toList) :
    ∃ ts', tokens (pre ++ sep ++ rest) = .ok ts' ∧
      ts'.map Token.lexeme = ts.map Token.lexeme := by
  have htiled := tokens_eq_ok_iff.mp h
  rw [String.toList_append] at htiled
  have hcs : [] ++ (pre.toList ++ rest.toList) = pre.toList ++ rest.toList := rfl
  obtain ⟨mid, hmid, -, hlexed⟩ := htiled.exists_lexed_separated ht hkind hcs hposition hsep
  rw [List.nil_append] at hmid
  obtain ⟨ts', htiled', hlexemes⟩ := hlexed []
  refine ⟨ts', tokens_eq_ok_iff.mpr ?_, hlexemes⟩
  rw [String.toList_append, String.toList_append, List.append_assoc, ← hmid]
  exact htiled'

end SchemaGrammar.Source
