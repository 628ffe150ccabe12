import SchemaGrammar.Proofs.Source.Places
import SchemaGrammar.Proofs.Source.Reach

/-!
# Tokens tile their text

Each token stands for a span of its text, at the place that it bears, and between the spans there
are blanks and comments only. `Tiled` says so along the text, and tells what is read from it.
-/
namespace SchemaGrammar.Source

/-- The characters `cs`, which come after `before`, are padding and tokens, and end with the end
mark. -/
inductive Tiled : List Char → List Char → List Token → Prop
  | done {before cs} : Trailing cs → Tiled before cs [Token.atEnd (Position.after (before ++ cs))]
  | token {before pad chars rest l ts} : Padding pad → Spelled rest l chars →
      Tiled (before ++ pad ++ chars) rest ts →
      Tiled before (pad ++ (chars ++ rest))
        (⟨l.1, l.2, Position.after (before ++ pad)⟩ :: ts)

namespace Cursor

theorem tokens_of_trivia_error {c : Cursor} {cause : FaultCause} {n used : Nat}
    (h : trivia c.rest = ⟨.error (cause, n), used⟩) :
    c.tokens = ⟨[], some ⟨cause, (c.forward n).position⟩, c.forward used⟩ := by
  rw [tokens, take, h]

/-- Tokens are read from behind what is passed over. -/
theorem tokens_of_trivia {c : Cursor} {used : Nat} (h : trivia c.rest = ⟨.ok (), used⟩) :
    c.tokens = (c.forward used).tokens := by
  have hunpadded : Unpadded (c.forward used).rest := by
    rw [rest_forward]
    exact (padsUpTo_of_trivia h).unpadded_drop
  have htake : c.take trivia = (.ok (), c.forward used) := by rw [take, h]
  rw [tokens, tokens.eq_def (c.forward used), htake, take_trivia_of_unpadded hunpadded]

theorem tokens_of_trailing (before : List Char) {cs : List Char} (h : Trailing cs) :
    (between before cs).tokens = ⟨[Token.atEnd (Position.after (before ++ cs))], none,
      between (before ++ cs) []⟩ := by
  have hforward := forward_between before cs []
  rw [List.append_nil] at hforward
  rw [tokens_of_trivia (c := between before cs) h.trivia_eq, hforward, tokens_of_nil rfl]
  rfl

theorem tokens_of_padding (before : List Char) {pad : List Char} (h : Padding pad)
    (rest : List Char) :
    (between before (pad ++ rest)).tokens = (between (before ++ pad) rest).tokens := by
  have hforward (k : Nat) : (between before (pad ++ rest)).forward (k + pad.length) =
      (between (before ++ pad) rest).forward k := by
    rw [Nat.add_comm, forward_add, forward_between]
  have htrivia := h.trivia_append rest
  cases hrest : trivia rest with
  | mk outcome used =>
  rw [hrest] at htrivia
  cases outcome with
  | error e =>
    rw [tokens_of_trivia_error (c := between before (pad ++ rest)) htrivia,
      tokens_of_trivia_error (c := between (before ++ pad) rest) hrest, hforward, hforward]
  | ok u =>
    rw [tokens_of_trivia (c := between before (pad ++ rest)) htrivia,
      tokens_of_trivia (c := between (before ++ pad) rest) hrest, hforward]

theorem tokens_of_spelled (before : List Char) {chars rest : List Char} {l : Lexeme}
    (h : Spelled rest l chars) :
    (between before (chars ++ rest)).tokens = { (between (before ++ chars) rest).tokens with
      tokens := ⟨l.1, l.2, Position.after before⟩ ::
        (between (before ++ chars) rest).tokens.tokens } := by
  obtain ⟨c, taken, rfl⟩ := List.exists_cons_of_ne_nil h.ne_nil
  have hforward := forward_between before (c :: taken) rest
  rw [List.length_cons] at hforward
  rw [tokens_of_token (x := c) (r := taken ++ rest) rfl h.unpadded h.tokenScan_eq, hforward]
  rfl

theorem tokens_of_tokenScan_error {c : Cursor} {x : Char} {r : List Char} (h : c.rest = x :: r)
    (hunpadded : Unpadded (x :: r)) {cause : FaultCause} {n used : Nat}
    (hscan : tokenScan x r = ⟨.error (cause, n), used⟩) :
    c.tokens = ⟨[], some ⟨cause, (c.forward n).position⟩, c.forward used⟩ := by
  rw [tokens, take_trivia_of_unpadded (h ▸ hunpadded)]
  dsimp only
  split
  · simp_all
  · next x' r' h' =>
    rw [h, List.cons.injEq] at h'
    obtain ⟨rfl, rfl⟩ := h'
    simp [take, hscan]

end Cursor

variable {before cs : List Char} {ts : List Token}

/-- What tiles a text is what is read from it. -/
theorem Tiled.tokens_eq (h : Tiled before cs ts) :
    (Cursor.between before cs).tokens.fault = none ∧
      (Cursor.between before cs).tokens.tokens = ts := by
  induction h with
  | done h =>
    rw [Cursor.tokens_of_trailing _ h]
    exact ⟨rfl, rfl⟩
  | token hpad hspelled _ ih =>
    rw [Cursor.tokens_of_padding _ hpad, Cursor.tokens_of_spelled _ hspelled]
    exact ⟨ih.1, congrArg _ ih.2⟩

/-- What is read from a text tiles it. -/
theorem tiled_of_fault_eq_none (h : (Cursor.between before cs).tokens.fault = none) :
    Tiled before cs (Cursor.between before cs).tokens.tokens := by
  -- on the length, for what is left after a token is no tail of the characters
  induction hn : cs.length using Nat.strong_induction_on generalizing before cs with
  | h n ih =>
  cases htrivia : trivia cs with
  | mk outcome used =>
  cases outcome with
  | error e =>
    rw [Cursor.tokens_of_trivia_error (c := .between before cs) htrivia] at h
    cases h
  | ok u =>
    obtain ⟨pad, rest, rfl, hpad, ⟨hunpadded, rfl⟩ | ⟨hlast, rfl⟩⟩ := padsUpTo_of_trivia htrivia
    · cases rest with
      | nil =>
        have htrailing : Trailing (pad ++ []) := ⟨pad, [], rfl, hpad, .inl rfl⟩
        rw [Cursor.tokens_of_trailing _ htrailing]
        exact .done htrailing
      | cons x r =>
        rw [Cursor.tokens_of_padding _ hpad] at h ⊢
        cases hscan : tokenScan x r with
        | mk outcome used =>
        cases outcome with
        | error e =>
          rw [Cursor.tokens_of_tokenScan_error (c := .between (before ++ pad) (x :: r)) rfl
            hunpadded hscan] at h
          cases h
        | ok l =>
          obtain ⟨taken, rest, rfl, rfl, hspelled⟩ := exists_spelled hunpadded hscan
          rw [← List.cons_append] at h ⊢
          rw [Cursor.tokens_of_spelled _ hspelled] at h ⊢
          refine .token hpad hspelled (ih _ ?_ h rfl)
          simp only [List.length_append, List.length_cons] at hn
          omega
    · have htrailing : Trailing (pad ++ rest) := ⟨pad, rest, rfl, hpad, .inr hlast⟩
      rw [Cursor.tokens_of_trailing _ htrailing]
      exact .done htrailing

/-- The tokens of a text are those that tile it. -/
theorem tokens_eq_ok_iff {text : String} :
    tokens text = .ok ts ↔ Tiled [] text.toList ts := by
  have hstart : Cursor.start text = .between [] text.toList := Cursor.start_eq_between text
  have htokens : tokens text = .ok ts ↔ (Cursor.between [] text.toList).tokens.fault = none ∧
      (Cursor.between [] text.toList).tokens.tokens = ts := by
    rw [tokens, hstart]
    cases (Cursor.between [] text.toList).tokens.fault <;> simp
  rw [htokens]
  constructor
  · rintro ⟨hfault, rfl⟩
    exact tiled_of_fault_eq_none hfault
  · exact Tiled.tokens_eq

/-! ## Spans -/

structure Span where
  start : Nat
  stop : Nat

def Span.chars (cs : List Char) (span : Span) : List Char :=
  (cs.drop span.start).take (span.stop - span.start)

def Span.gaps (length : Nat) : Nat → List Span → List Span
  | start, [] => [⟨start, length⟩]
  | start, span :: spans => ⟨start, span.start⟩ :: gaps length span.stop spans

structure Token.StandsFor (cs : List Char) (t : Token) (span : Span) : Prop where
  nonempty : span.start < span.stop
  within : span.stop ≤ cs.length
  position : t.position = Position.after (cs.take span.start)
  kind_ne : t.kind ≠ .endMark
  /-- But for strings, the value is the text of the span, and keywords are told by it. -/
  value : t.kind ≠ .string → t.value = String.ofList (span.chars cs) ∧
    ∀ w, t.kind = .keyword w ↔ t.value = w.text
  word : t.kind.isName = true → ∀ c ∈ cs[span.stop]?, isWordPart c = false
  number : t.kind = .number → ∀ c ∈ cs[span.stop]?, isNumberPart c = false
  string : t.kind = .string →
    ∃ q body, isQuote q = true ∧ span.chars cs = q :: (body ++ [q])
  /-- The first character decides of which kind the token is. -/
  spelled : Spelled (cs.drop span.stop) t.lexeme (span.chars cs)

/-- Tokens tile a text from `start` on: their spans follow one another, and blanks and comments lie
between them. -/
structure Tiling (cs : List Char) (start : Nat) (ts : List Token) (spans : List Span) : Prop where
  tokens : List.Forall₂ (Token.StandsFor cs) ts spans
  starts : ∀ span ∈ spans, start ≤ span.start
  ordered : spans.Pairwise fun span later => span.stop ≤ later.start
  gaps : ∀ gap ∈ Span.gaps cs.length start spans,
    Padding (gap.chars cs) ∨ gap.stop = cs.length ∧ Trailing (gap.chars cs)

theorem Span.chars_append (before cs rest : List Char) :
    Span.chars (before ++ (cs ++ rest)) ⟨before.length, (before ++ cs).length⟩ = cs := by
  have hlength : (before ++ cs).length - before.length = cs.length := by
    rw [List.length_append, Nat.add_sub_cancel_left]
  rw [chars, List.drop_left, hlength, List.take_left]

theorem getElem?_append_length (before cs rest : List Char) :
    (before ++ (cs ++ rest))[(before ++ cs).length]? = rest.head? := by
  rw [← List.append_assoc, List.getElem?_append_right (Nat.le_refl _), Nat.sub_self,
    List.head?_eq_getElem?]

theorem Keyword.ofText?_eq_some {word : String} {w : Keyword} :
    Keyword.ofText? word = some w ↔ word = w.text := by
  constructor
  · intro h
    have hw := List.find?_some h
    exact (of_decide_eq_true hw).symm
  · rintro rfl
    cases w <;> rfl

theorem wordKind_eq_keyword {value : String} {w : Keyword} :
    wordKind value = .keyword w ↔ value = w.text := by
  rw [← Keyword.ofText?_eq_some, wordKind]
  cases Keyword.ofText? value <;> simp

/-- What begins like no word is no keyword. -/
theorem ne_keyword {c : Char} {taken : List Char} (h : isWordStart c = false) (w : Keyword) :
    String.ofList (c :: taken) ≠ w.text := by
  intro heq
  have hchars : c :: taken = w.text.toList := by rw [← heq, String.toList_ofList]
  have hstart : w.text.toList.head?.all isWordStart = true := by cases w <;> rfl
  rw [← hchars, List.head?_cons, Option.all_some, h] at hstart
  cases hstart

theorem isWordStart_of_isDigit {c : Char} (h : Text.isDigit c = true) : isWordStart c = false := by
  rw [← Bool.not_eq_true]
  intro hword
  rw [isDigit_of_isWordStart hword] at h
  cases h

variable {rest chars : List Char} {l : Lexeme}

theorem Spelled.value_eq (h : Spelled rest l chars) (hstring : l.1 ≠ .string) :
    l.2 = String.ofList chars ∧ ∀ w, l.1 = .keyword w ↔ l.2 = w.text := by
  cases h with
  | string => exact absurd rfl hstring
  | number hdigit _ _ =>
    refine ⟨rfl, fun w => iff_of_false nofun ?_⟩
    exact ne_keyword (isWordStart_of_isDigit hdigit) w
  | word _ _ _ => exact ⟨rfl, fun w => wordKind_eq_keyword⟩
  | mark m =>
    refine ⟨rfl, fun w => iff_of_false nofun ?_⟩
    exact ne_keyword (by cases m <;> rfl) w
  | symbol _ _ _ _ hword _ =>
    exact ⟨rfl, fun w => iff_of_false nofun (ne_keyword hword w)⟩

theorem Spelled.kind_ne_endMark (h : Spelled rest l chars) : l.1 ≠ .endMark := by
  cases h with
  | word => exact wordKind_ne _ rfl
  | _ => nofun

theorem Spelled.word_stops (h : Spelled rest l chars) (hword : l.1.isName = true) :
    ∀ c ∈ rest.head?, isWordPart c = false := by
  cases h with
  | word _ _ hstop => exact hstop
  | _ => cases hword

theorem Spelled.number_stops (h : Spelled rest l chars) (hnumber : l.1 = .number) :
    ∀ c ∈ rest.head?, isNumberPart c = false := by
  cases h with
  | number _ _ hstop => exact hstop
  | word => exact absurd hnumber (wordKind_ne _ rfl)
  | _ => cases hnumber

theorem Spelled.quotes (h : Spelled rest l chars) (hstring : l.1 = .string) :
    ∃ q body, isQuote q = true ∧ chars = q :: (body ++ [q]) := by
  cases h with
  | string hquote _ => exact ⟨_, _, hquote, rfl⟩
  | word => exact absurd hstring (wordKind_ne _ rfl)
  | _ => cases hstring

theorem Spelled.standsFor (h : Spelled rest l chars) (before : List Char) :
    Token.StandsFor (before ++ (chars ++ rest)) ⟨l.1, l.2, Position.after before⟩
      ⟨before.length, (before ++ chars).length⟩ := by
  have hchars := Span.chars_append before chars rest
  have hnext := getElem?_append_length before chars rest
  have hrest : (before ++ (chars ++ rest)).drop (before ++ chars).length = rest := by
    rw [← List.append_assoc, List.drop_left]
  have hlength := List.length_pos_iff.mpr h.ne_nil
  refine ⟨?_, ?_, by rw [List.take_left], h.kind_ne_endMark, ?_, ?_, ?_, ?_, ?_⟩
  · change before.length < (before ++ chars).length
    rw [List.length_append]
    omega
  · change (before ++ chars).length ≤ (before ++ (chars ++ rest)).length
    simp only [List.length_append]
    omega
  · rw [hchars]
    exact h.value_eq
  · rw [hnext]
    exact h.word_stops
  · rw [hnext]
    exact h.number_stops
  · rw [hchars]
    exact h.quotes
  · rw [hchars, hrest]
    exact h

/-- The tokens that tile a text have spans. -/
theorem Tiled.exists_spans (h : Tiled before cs ts) : ∃ body spans,
    ts = body ++ [Token.atEnd (Position.after (before ++ cs))] ∧
      Tiling (before ++ cs) before.length body spans := by
  induction h with
  | @done before cs h =>
    refine ⟨[], [], rfl, .nil, nofun, .nil, fun gap hgap => ?_⟩
    rw [Span.gaps, List.mem_singleton] at hgap
    subst hgap
    refine .inr ⟨rfl, ?_⟩
    have hchars := Span.chars_append before cs []
    rw [List.append_nil] at hchars
    rwa [hchars]
  | @token before pad chars rest l ts hpad hspelled _ ih =>
    obtain ⟨body, spans, rfl, htokens, hstarts, hordered, hgaps⟩ := ih
    have hcs : before ++ pad ++ chars ++ rest = before ++ (pad ++ (chars ++ rest)) := by
      simp only [List.append_assoc]
    rw [hcs] at htokens hgaps ⊢
    refine ⟨_, ⟨(before ++ pad).length, (before ++ pad ++ chars).length⟩ :: spans, rfl,
      .cons ?_ htokens, ?_, .cons hstarts hordered, ?_⟩
    · have hstands := hspelled.standsFor (before ++ pad)
      rwa [List.append_assoc before pad] at hstands
    · intro span hspan
      obtain rfl | hspan := List.mem_cons.mp hspan
      · exact (List.sublist_append_left before pad).length_le
      · refine le_trans ?_ (hstarts span hspan)
        simp only [List.length_append]
        omega
    · intro gap hgap
      obtain rfl | hgap := List.mem_cons.mp hgap
      · rw [Span.chars_append before pad]
        exact .inl hpad
      · exact hgaps gap hgap

/-- Each token but the last stands for a span of the text, at the place it bears; between the spans
there are blanks and comments only; and the last token marks the end of the text. -/
theorem exists_tiling {text : String} (h : tokens text = .ok ts) : ∃ body spans,
    ts = body ++ [Token.atEnd (Position.after text.toList)] ∧
      Tiling text.toList 0 body spans :=
  (tokens_eq_ok_iff.mp h).exists_spans

/-- A comment and a string go over line ends, and a comment ends with the text. -/
def threeLines : String := "a/*\n**/'\\\n'2x//"

theorem threeLines_tiled :
    tokens threeLines = .ok [⟨.identifier, "a", ⟨1, 1⟩⟩, ⟨.string, "", ⟨2, 4⟩⟩,
      ⟨.number, "2x", ⟨3, 2⟩⟩, Token.atEnd ⟨3, 6⟩] ∧
    ∃ body spans, [⟨.identifier, "a", ⟨1, 1⟩⟩, ⟨.string, "", ⟨2, 4⟩⟩, ⟨.number, "2x", ⟨3, 2⟩⟩,
      Token.atEnd ⟨3, 6⟩] = body ++ [Token.atEnd (Position.after threeLines.toList)] ∧
        Tiling threeLines.toList 0 body spans := by
  have hcomment : Padding ('/' :: '*' :: (['\n', '*'] ++ '*' :: '/' :: [])) :=
    .blockComment (by decide) .nil
  have hstring : stringLiteral ('\'' :: (['\\', '\n'] ++ ['\''])) = ⟨.ok "", 4⟩ := by
    simp [stringLiteral, stringContent, simpleEscape, Content.after, Text.joinSurrogates]
  have hlast : Trailing ['/', '/'] := ⟨[], _, rfl, .nil, .inr ⟨[], rfl, List.not_mem_nil⟩⟩
  have htiled : Tiled [] threeLines.toList [⟨.identifier, "a", ⟨1, 1⟩⟩, ⟨.string, "", ⟨2, 4⟩⟩,
      ⟨.number, "2x", ⟨3, 2⟩⟩, Token.atEnd ⟨3, 6⟩] :=
    @Tiled.token _ [] ['a'] _ _ _ .nil
      (.word rfl (List.forall_mem_nil _) (by rintro _ ⟨⟩; rfl))
      (.token hcomment (.string rfl hstring)
        (@Tiled.token _ [] ['2', 'x'] _ _ _ .nil
          (.number rfl (List.forall_mem_singleton.mpr rfl) (by rintro _ ⟨⟩; rfl)) (.done hlast)))
  have htokens := tokens_eq_ok_iff.mpr htiled
  exact ⟨htokens, exists_tiling htokens⟩

end SchemaGrammar.Source
