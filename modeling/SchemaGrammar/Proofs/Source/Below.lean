import SchemaGrammar.Proofs.Source.Insertion
import SchemaGrammar.Proofs.Source.Relocation

/-!
# A text below other lines

A text that comes below other lines is read as it is read alone: its tokens and its fault only stand
as many lines further down. The text above is read as it is read alone, too, for the line end that
follows it is a blank, or closes the comment that it ends with.
-/
namespace SchemaGrammar

theorem Text.toList_append_line (above text : String) :
    (above ++ "\n" ++ text).toList = above.toList ++ '\n' :: text.toList := by
  rw [String.toList_append, String.toList_append, List.append_assoc]
  rfl

namespace Source

def Position.down (n : Nat) (p : Position) : Position := ⟨p.line + n, p.column⟩

/-- `p` is a place of a text, and `p'` is that place with `n` lines above the text. -/
def Position.Below (n : Nat) (p p' : Position) : Prop := 1 ≤ p.line ∧ p' = p.down n

structure Fault.Below (n : Nat) (e e' : Fault) : Prop where
  cause : e'.cause = e.cause
  position : e.position.Below n e'.position

structure Cursor.Below (n : Nat) (c c' : Cursor) : Prop where
  rest : c'.rest = c.rest
  position : c.position.Below n c'.position

theorem Position.keepsLines_below (n : Nat) : KeepsLines (Position.Below n) := by
  rintro p _ q _ ⟨-, rfl⟩ ⟨-, rfl⟩
  exact Nat.add_lt_add_iff_right

theorem Position.Below.step {n : Nat} {p p' : Position} (h : p.Below n p') (c : Char) :
    (p.step c).Below n (p'.step c) := by
  obtain ⟨hline, rfl⟩ := h
  rw [Position.step, Position.step]
  split_ifs
  · refine ⟨Nat.le_add_left _ _, ?_⟩
    rw [down, down, Nat.add_right_comm]
  · exact ⟨hline, rfl⟩

theorem Position.below_after_lineEnd (above : List Char) :
    start.Below (above.count '\n' + 1) (after (above ++ ['\n'])) := by
  refine ⟨Nat.le_refl 1, ?_⟩
  rw [after_concat, step, if_pos rfl, down, after, start, Nat.add_comm 1]

namespace Cursor.Below

variable {n : Nat} {c c' : Cursor}

theorem advance (h : c.Below n c') : c.advance.Below n c'.advance := by
  obtain ⟨hrest, hposition⟩ := h
  rw [Cursor.advance, Cursor.advance, hrest]
  cases hc : c.rest with
  | nil => exact ⟨hrest, hposition⟩
  | cons x r => exact ⟨rfl, hposition.step x⟩

theorem forward (h : c.Below n c') (k : Nat) : (c.forward k).Below n (c'.forward k) := by
  induction k generalizing c c' with
  | zero => exact h
  | succ k ih => exact ih h.advance

end Cursor.Below

structure TokenRun.Below (n : Nat) (run run' : TokenRun) : Prop where
  tokens : AllAlike (Position.Below n) run.tokens run'.tokens
  fault : Option.Rel (Fault.Below n) run.fault run'.fault

namespace Cursor.Below

variable {n : Nat} {c c' : Cursor}

theorem stopped (h : c.Below n c') (cause : FaultCause) (k used : Nat) :
    TokenRun.Below n ⟨[], some ⟨cause, (c.forward k).position⟩, c.forward used⟩
      ⟨[], some ⟨cause, (c'.forward k).position⟩, c'.forward used⟩ :=
  ⟨.nil, .some ⟨rfl, (h.forward k).position⟩⟩

/-- Reading on from where the same characters lie ahead gives the same tokens. -/
theorem tokens (h : c.Below n c') : c.tokens.Below n c'.tokens := by
  -- on the number of characters ahead, for the cursor goes on by whole tokens
  induction hlength : c.rest.length using Nat.strong_induction_on generalizing c c' with
  | h length ih =>
  cases htrivia : trivia c.rest with
  | mk outcome used =>
  have htrivia' := htrivia
  rw [← h.rest] at htrivia'
  cases outcome with
  | error e =>
    rw [tokens_of_trivia_error htrivia, tokens_of_trivia_error htrivia']
    exact h.stopped _ _ _
  | ok u =>
    rw [tokens_of_trivia htrivia, tokens_of_trivia htrivia']
    have hnext := h.forward used
    have hunpadded : Unpadded (c.forward used).rest := by
      rw [rest_forward]
      exact (padsUpTo_of_trivia htrivia).unpadded_drop
    cases hrest : (c.forward used).rest with
    | nil =>
      rw [tokens_of_nil hrest, tokens_of_nil (hnext.rest.trans hrest)]
      exact ⟨.cons ⟨rfl, rfl, hnext.position⟩ .nil, .none⟩
    | cons x r =>
      have hrest' := hnext.rest.trans hrest
      rw [hrest] at hunpadded
      cases hscan : tokenScan x r with
      | mk outcome used₁ =>
      cases outcome with
      | error e =>
        rw [tokens_of_tokenScan_error hrest hunpadded hscan,
          tokens_of_tokenScan_error hrest' hunpadded hscan]
        exact hnext.stopped _ _ _
      | ok l =>
        rw [tokens_of_token hrest hunpadded hscan, tokens_of_token hrest' hunpadded hscan]
        have hshorter : ((c.forward used).forward used₁).rest.length < length := by
          have hused : 1 ≤ used₁ := by
            have hused := one_le_used_tokenScan x r
            rwa [hscan] at hused
          have hle := congrArg List.length hrest
          rw [rest_forward, List.length_drop, List.length_cons] at hle
          rw [rest_forward, hrest, List.length_drop, List.length_cons]
          omega
        obtain ⟨htokens, hfault⟩ := ih _ hshorter (hnext.forward used₁) rfl
        exact ⟨.cons ⟨rfl, rfl, hnext.position⟩ htokens, hfault⟩

end Cursor.Below

/-! ## Tokens of both parts -/

/-- A comment that ends with the text ends with its line if the text goes on with a line end. -/
theorem Trailing.padding_lineEnd {cs : List Char} (h : Trailing cs) : Padding (cs ++ ['\n']) := by
  obtain ⟨pad, last, rfl, hpad, rfl | ⟨body, rfl, hbody⟩⟩ := h
  · rw [List.append_nil]
    exact hpad.append (.blank rfl .nil)
  · rw [List.append_assoc]
    exact hpad.append (.lineComment hbody .nil)

namespace Tiled

variable {before cs : List Char} {ts : List Token}

theorem ne_nil (h : Tiled before cs ts) : ts ≠ [] := by
  cases h <;> exact List.cons_ne_nil _ _

/-- The tokens of a text are read before those of the lines that follow. -/
theorem tokens_append_line (h : Tiled before cs ts) (more : List Char) :
    (Cursor.between before (cs ++ '\n' :: more)).tokens =
      { (Cursor.between (before ++ cs ++ ['\n']) more).tokens with
        tokens :=
          ts.dropLast ++ (Cursor.between (before ++ cs ++ ['\n']) more).tokens.tokens } := by
  induction h with
  | @done before cs h =>
    have hcs : cs ++ '\n' :: more = cs ++ ['\n'] ++ more := by
      rw [List.append_assoc, List.singleton_append]
    rw [hcs, Cursor.tokens_of_padding before h.padding_lineEnd, ← List.append_assoc]
    rfl
  | @token before pad chars rest l ts hpad hspelled htiled ih =>
    -- the last token of the text may be a word or a number, which the line end cuts off
    have hspelled' : Spelled (rest ++ '\n' :: more) l chars := by
      refine hspelled.of_head? fun c hc => ?_
      cases rest with
      | nil =>
        cases hc
        exact .inr rfl
      | cons d rest => exact .inl hc
    have hbefore : before ++ (pad ++ (chars ++ rest)) = before ++ pad ++ chars ++ rest := by
      simp only [List.append_assoc]
    have hcs : pad ++ (chars ++ rest) ++ '\n' :: more =
        pad ++ (chars ++ (rest ++ '\n' :: more)) := by
      simp only [List.append_assoc]
    rw [hcs, Cursor.tokens_of_padding before hpad, Cursor.tokens_of_spelled _ hspelled', ih,
      hbefore, List.dropLast_cons_of_ne_nil htiled.ne_nil]
    rfl

end Tiled

/-- A text below another one has its own tokens, or its own fault. -/
theorem tokens_append_line {above : String} {ts : List Token} (h : tokens above = .ok ts)
    (text : String) :
    (∃ e e', tokens text = .error e ∧ tokens (above ++ "\n" ++ text) = .error e' ∧
      e.Below (above.toList.count '\n' + 1) e') ∨
    ∃ us us', tokens text = .ok us ∧ tokens (above ++ "\n" ++ text) = .ok (ts.dropLast ++ us') ∧
      AllAlike (Position.Below (above.toList.count '\n' + 1)) us us' := by
  have hbelow : (Cursor.between [] text.toList).Below (above.toList.count '\n' + 1)
      (Cursor.between (above.toList ++ ['\n']) text.toList) :=
    ⟨rfl, Position.below_after_lineEnd above.toList⟩
  have hwhole := (tokens_eq_ok_iff.mp h).tokens_append_line text.toList
  rw [List.nil_append] at hwhole
  rw [tokens, tokens, Cursor.start_eq_between, Cursor.start_eq_between,
    Text.toList_append_line, hwhole]
  dsimp only
  obtain ⟨htokens, hfault⟩ := hbelow.tokens
  generalize (Cursor.between [] text.toList).tokens.fault = fault,
    (Cursor.between (above.toList ++ ['\n']) text.toList).tokens.fault = fault' at hfault
  cases hfault with
  | some he => exact .inl ⟨_, _, rfl, rfl, he⟩
  | none => exact .inr ⟨_, _, rfl, rfl, htokens⟩

/-- The same without the marks for the end of the text. -/
theorem tokenList_append_line {above : String} {ts : List Token} {finish₀ : Position}
    (h : tokenList above = .ok (ts, finish₀)) (text : String) :
    (∃ e e', tokenList text = .error e ∧ tokenList (above ++ "\n" ++ text) = .error e' ∧
      e.Below (above.toList.count '\n' + 1) e') ∨
    ∃ us us' finish finish', tokenList text = .ok (us, finish) ∧
      tokenList (above ++ "\n" ++ text) = .ok (ts ++ us', finish') ∧
      AllAlike (Position.Below (above.toList.count '\n' + 1)) us us' ∧
      finish.Below (above.toList.count '\n' + 1) finish' := by
  rw [tokenList] at h
  cases habove : tokens above with
  | error e =>
    rw [habove] at h
    cases h
  | ok ts₀ =>
    rw [habove] at h
    cases h
    obtain ⟨e, e', he, he', hbelow⟩ | ⟨us, us', hus, hus', halike⟩ := tokens_append_line habove text
    · rw [tokenList, tokenList, he, he']
      exact .inl ⟨e, e', rfl, rfl, hbelow⟩
    · obtain ⟨r, t, r', t', rfl, rfl, hr, ht⟩ :=
        halike.exists_concat (tokens_eq_ok_iff.mp hus).ne_nil
      rw [← List.append_assoc] at hus'
      rw [tokenList, tokenList, hus, hus', Except.map, Except.map, List.dropLast_concat,
        List.dropLast_concat, List.getLast?_concat, List.getLast?_concat]
      exact .inr ⟨r, r', t.position, t'.position, rfl, rfl, hr, ht.position⟩

end Source

end SchemaGrammar
