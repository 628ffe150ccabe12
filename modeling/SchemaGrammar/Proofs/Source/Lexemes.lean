import SchemaGrammar.Proofs.CharClasses
import SchemaGrammar.Source.Declarations

/-!
# Lexemes

A lexeme is what a token is apart from its place. `Spells` says which lexemes a list of characters
spells; whatever blanks it has, its tokens have these lexemes.
-/
namespace SchemaGrammar.Source

/-- The kind and the value of a token. -/
abbrev Lexeme := TokenKind × String

namespace Lexeme

def word (name : String) : Lexeme := (wordKind name, name)

def text (value : String) : Lexeme := (.string, value)

def mark (m : Mark) : Lexeme := (.mark m, String.ofList [m.char])

end Lexeme

theorem isName_wordKind (name : String) : (wordKind name).isName = true := by
  unfold wordKind
  split <;> rfl

theorem wordKind_ne (name : String) {kind : TokenKind} (h : kind.isName = false) :
    wordKind name ≠ kind := by
  rintro rfl
  rw [isName_wordKind] at h
  cases h

def Token.lexeme (t : Token) : Lexeme := (t.kind, t.value)

inductive Spells : List Char → List Lexeme → Prop
  | done : Spells [] []
  | blank {c cs ls} : Text.isBlank c = true → Spells cs ls → Spells (c :: cs) ls
  | token {c r cs l ls} : Text.isBlank c = false → c ≠ '/' →
      tokenScan c (r ++ cs) = ⟨.ok l, r.length + 1⟩ → Spells cs ls →
      Spells (c :: r ++ cs) (l :: ls)

/-- Whether neither blanks nor comments are passed over. -/
def Unpadded (cs : List Char) : Prop := trivia cs = ⟨.ok (), 0⟩

/-- At a character that begins no comment, only blanks are passed over. -/
theorem trivia_cons {c : Char} {r : List Char} (h : c ≠ '/') :
    trivia (c :: r) = if Text.isBlank c then (trivia r).after 1 else ⟨.ok (), 0⟩ := by
  rw [trivia.eq_def]
  split
  · next heq => exact absurd (List.cons.inj heq).1 h
  · next heq => exact absurd (List.cons.inj heq).1 h
  · next heq =>
    obtain ⟨rfl, rfl⟩ := List.cons.inj heq
    rfl
  · next heq => cases heq

theorem unpadded_nil : Unpadded [] := by
  rw [Unpadded, trivia.eq_def]

theorem trivia_of_blank {c : Char} {r : List Char} (h : Text.isBlank c = true) :
    trivia (c :: r) = (trivia r).after 1 := by
  have hslash : c ≠ '/' := by
    rintro rfl
    cases h
  rw [trivia_cons hslash, if_pos h]

theorem unpadded_of_ne_slash {c : Char} {r : List Char} (hblank : Text.isBlank c = false)
    (hslash : c ≠ '/') : Unpadded (c :: r) := by
  rw [Unpadded, trivia_cons hslash, hblank]
  rfl

namespace Cursor

theorem rest_advance_of_cons {c : Cursor} {x : Char} {r : List Char} (h : c.rest = x :: r) :
    c.advance.rest = r := by
  rw [rest_advance, h, List.drop_one, List.tail_cons]

theorem take_trivia_of_blank {c : Cursor} {x : Char} {r : List Char} (h : c.rest = x :: r)
    (hx : Text.isBlank x = true) : c.take trivia = c.advance.take trivia := by
  rw [take, take, rest_advance_of_cons h, h, trivia_of_blank hx, Scan.after]
  cases (trivia r).outcome <;> rfl

theorem take_trivia_of_unpadded {c : Cursor} (h : Unpadded c.rest) :
    c.take trivia = (.ok (), c) := by
  rw [take, h]
  rfl

/-- A blank does not change the tokens that are read. -/
theorem tokens_of_blank {c : Cursor} {x : Char} {r : List Char} (h : c.rest = x :: r)
    (hx : Text.isBlank x = true) : c.tokens = c.advance.tokens := by
  rw [tokens, take_trivia_of_blank h hx, ← tokens]

theorem tokens_of_nil {c : Cursor} (h : c.rest = []) :
    c.tokens = ⟨[Token.atEnd c.position], none, c⟩ := by
  rw [tokens, take_trivia_of_unpadded (h ▸ unpadded_nil)]
  dsimp only
  split
  · rfl
  · simp_all

theorem tokens_of_token {c : Cursor} {x : Char} {r : List Char} {l : Lexeme} {used : Nat}
    (h : c.rest = x :: r) (hunpadded : Unpadded (x :: r)) (hscan : tokenScan x r = ⟨.ok l, used⟩) :
    c.tokens = { (c.forward used).tokens with
      tokens := ⟨l.1, l.2, c.position⟩ :: (c.forward used).tokens.tokens } := by
  rw [tokens, take_trivia_of_unpadded (h ▸ hunpadded)]
  dsimp only
  split
  · simp_all
  · next x' r' h' =>
    rw [h, List.cons.injEq] at h'
    obtain ⟨rfl, rfl⟩ := h'
    simp [take, hscan]

end Cursor

/-- The tokens of characters have the lexemes that the characters spell. -/
theorem Spells.exists_tokens {cs : List Char} {ls : List Lexeme} (h : Spells cs ls) {c : Cursor}
    (hc : c.rest = cs) : ∃ ts p,
      c.tokens.tokens = ts ++ [Token.atEnd p] ∧ c.tokens.fault = none ∧
        ts.map Token.lexeme = ls := by
  -- on what is spelled and not on the characters, for the cursor goes on by whole tokens
  induction h generalizing c with
  | done => exact ⟨[], c.position, by rw [Cursor.tokens_of_nil hc]; exact ⟨rfl, rfl, rfl⟩⟩
  | blank hx _ ih =>
    rw [Cursor.tokens_of_blank hc hx]
    exact ih (Cursor.rest_advance_of_cons hc)
  | @token x r cs l ls hblank hslash hscan _ ih =>
    have hrest : (c.forward (r.length + 1)).rest = cs := by
      rw [Cursor.rest_forward, hc, List.cons_append, List.drop_succ_cons, List.drop_left]
    obtain ⟨ts, p, htokens, hfault, hlexemes⟩ := ih hrest
    rw [Cursor.tokens_of_token hc (unpadded_of_ne_slash hblank hslash) hscan]
    refine ⟨⟨l.1, l.2, c.position⟩ :: ts, p, ?_, hfault, ?_⟩
    · rw [htokens, List.cons_append]
    · rw [List.map_cons, hlexemes]
      rfl

/-- The token list of a text has the lexemes that the text spells. -/
theorem Spells.exists_tokenList {text : String} {ls : List Lexeme} (h : Spells text.toList ls) :
    ∃ ts p, tokenList text = .ok (ts, p) ∧ ts.map Token.lexeme = ls := by
  obtain ⟨ts, p, htokens, hfault, hlexemes⟩ := h.exists_tokens (c := Cursor.start text) rfl
  refine ⟨ts, p, ?_, hlexemes⟩
  simp only [tokenList, tokens, hfault, htokens, Except.map, List.dropLast_concat,
    List.getLast?_concat]
  rfl

/-! ## What single lexemes are spelled by -/

theorem Spells.space {cs : List Char} {ls : List Lexeme} (h : Spells cs ls) :
    Spells (' ' :: cs) ls := .blank rfl h

theorem Spells.lineEnd {cs : List Char} {ls : List Lexeme} (h : Spells cs ls) :
    Spells ('\n' :: cs) ls := .blank rfl h

theorem tokenScan_mark (m : Mark) (cs : List Char) :
    tokenScan m.char cs = ⟨.ok (Lexeme.mark m), 1⟩ := by
  have hquote : isQuote m.char = false := by cases m <;> rfl
  have hdigit : Text.isDigit m.char = false := by cases m <;> rfl
  have hword : isWordStart m.char = false := by cases m <;> rfl
  have hmark : Mark.ofChar? m.char = some m := by cases m <;> rfl
  simp [tokenScan, plainToken, hquote, hdigit, hword, hmark, Lexeme.mark]

theorem Spells.mark (m : Mark) {cs : List Char} {ls : List Lexeme} (h : Spells cs ls) :
    Spells (m.char :: cs) (.mark m :: ls) := by
  refine .token (r := []) ?_ ?_ (tokenScan_mark m cs) h
  · cases m <;> rfl
  · cases m <;> decide

/-- What the lexer reads as one identifier or keyword. -/
def IsName (name : String) : Prop :=
  ∃ c r, name.toList = c :: r ∧ isWordStart c = true ∧ ∀ x ∈ r, isWordPart x = true

theorem isName_of_cons {name : String} {c : Char} {r : List Char} (h : name.toList = c :: r)
    (hstart : isWordStart c = true) (hparts : r.all isWordPart = true) : IsName name :=
  ⟨c, r, h, hstart, List.all_eq_true.mp hparts⟩

/-- Whether characters do not go on with a word before them. -/
def Stops (cs : List Char) : Prop := ∀ c ∈ cs.head?, isWordPart c = false

theorem isWordStart_iff {c : Char} :
    isWordStart c = true ↔ Text.isLetter c = true ∨ c = '_' ∨ c = '$' := by
  simp [isWordStart, or_assoc]

theorem isDigit_of_isWordStart {c : Char} (h : isWordStart c = true) : Text.isDigit c = false := by
  obtain h | rfl | rfl := isWordStart_iff.mp h
  · exact Text.isDigit_of_isLetter h
  · rfl
  · rfl

theorem isBlank_of_isWordStart {c : Char} (h : isWordStart c = true) : Text.isBlank c = false := by
  obtain h | rfl | rfl := isWordStart_iff.mp h
  · exact Text.isBlank_of_isLetter h
  · rfl
  · rfl

theorem isWordPart_of_isBlank {c : Char} (h : Text.isBlank c = true) : isWordPart c = false := by
  have hletter := Text.isLetterOrNumber_of_isBlank h
  have hunderscore : c ≠ '_' := by
    rintro rfl
    cases h
  have hdollar : c ≠ '$' := by
    rintro rfl
    cases h
  simp [isWordPart, hletter, hunderscore, hdollar]

theorem isWordPart_of_isWordStart {c : Char} (h : isWordStart c = true) : isWordPart c = true := by
  obtain h | rfl | rfl := isWordStart_iff.mp h
  · simp [isWordPart, Text.isLetterOrNumber_of_isLetter h]
  · rfl
  · rfl

theorem IsName.isWordPart {name : String} (h : IsName name) :
    ∀ c ∈ name.toList, isWordPart c = true := by
  obtain ⟨c, r, hchars, hstart, hparts⟩ := h
  rw [hchars]
  exact List.forall_mem_cons.mpr ⟨isWordPart_of_isWordStart hstart, hparts⟩

theorem IsName.ne_empty {name : String} (h : IsName name) : name ≠ "" := by
  obtain ⟨c, r, hchars, -⟩ := h
  rintro rfl
  cases hchars

theorem isQuote_of_isWordStart {c : Char} (h : isWordStart c = true) : isQuote c = false := by
  rw [← Bool.not_eq_true]
  intro hq
  simp only [isQuote, Bool.or_eq_true, decide_eq_true_eq] at hq
  obtain (rfl | rfl) | rfl := hq <;> cases h

theorem takeWhile_append_of_head? {p : Char → Bool} {as bs : List Char}
    (has : ∀ a ∈ as, p a = true) (hbs : ∀ b ∈ bs.head?, p b = false) :
    (as ++ bs).takeWhile p = as := by
  rw [List.takeWhile_append_of_pos has]
  cases bs with
  | nil => rw [List.takeWhile_nil, List.append_nil]
  | cons b bs => simp [hbs b rfl]

theorem Spells.word {name : String} (hname : IsName name) {cs : List Char} (hcs : Stops cs)
    {ls : List Lexeme} (h : Spells cs ls) : Spells (name.toList ++ cs) (.word name :: ls) := by
  obtain ⟨c, r, hchars, hstart, hparts⟩ := hname
  have hname : String.ofList (c :: r) = name := by rw [← hchars, String.ofList_toList]
  have hslash : c ≠ '/' := by
    rintro rfl
    cases hstart
  have hquote := isQuote_of_isWordStart hstart
  have hscan : tokenScan c (r ++ cs) = ⟨.ok (Lexeme.word name), r.length + 1⟩ := by
    simp [tokenScan, plainToken, hquote, isDigit_of_isWordStart hstart, hstart,
      takeWhile_append_of_head? hparts hcs, hname, Lexeme.word]
  rw [hchars]
  exact .token (isBlank_of_isWordStart hstart) hslash hscan h

end SchemaGrammar.Source
