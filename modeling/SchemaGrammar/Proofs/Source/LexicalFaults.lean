import SchemaGrammar.Proofs.Source.Tiling

/-!
# Faults of characters

Reading tokens stops where the characters ahead are no token: at a comment that never closes, at a
string that does not close or has half of a surrogate pair, or in a string at a bad escape. What
comes before is tokens and padding as a whole.
-/
namespace SchemaGrammar.Source

/-! ## Comments that never close -/

theorem not_closed_of_commentEnd? {cs : List Char} (h : commentEnd? cs = none) :
    ¬ ['*', '/'] <:+: cs := by
  induction cs using commentEnd?.induct with
  | case1 => exact fun hclosed => absurd hclosed.length_le (by decide)
  | case2 rest => cases h
  | case3 c r hc ih =>
    have hcons : commentEnd? (c :: r) = (commentEnd? r).map (· + 1) := by
      rw [commentEnd?]
      exact hc
    rw [hcons, Option.map_eq_none_iff] at h
    rw [List.infix_cons_iff]
    rintro (⟨rest, heq⟩ | hclosed)
    · cases heq
      exact hc rest rfl rfl
    · exact ih h hclosed

theorem Scan.after_eq_error {s : Scan Unit} {cause : FaultCause} {n k used : Nat}
    (h : s.after k = ⟨.error (cause, n), used⟩) :
    ∃ m used', s = ⟨.error (cause, m), used'⟩ ∧ n = m + k := by
  obtain ⟨outcome, used'⟩ := s
  cases outcome with
  | error e =>
    cases h
    exact ⟨_, used', rfl, rfl⟩
  | ok u =>
    rw [after, mk.injEq] at h
    cases h.1

def OpenComment (cs : List Char) : Prop := ∃ r, cs = '/' :: '*' :: r ∧ ¬ ['*', '/'] <:+: r

/-- Behind `n` characters that are padding there is a comment that never closes. -/
def OpensAfter (cs : List Char) (n : Nat) : Prop :=
  ∃ pad rest, cs = pad ++ rest ∧ Padding pad ∧ OpenComment rest ∧ n = pad.length

theorem OpensAfter.append {cs pad : List Char} {n : Nat} (hpad : Padding pad)
    (h : OpensAfter cs n) : OpensAfter (pad ++ cs) (n + pad.length) := by
  obtain ⟨more, rest, rfl, hmore, hrest, rfl⟩ := h
  refine ⟨pad ++ more, rest, (List.append_assoc _ _ _).symm, hpad.append hmore, hrest, ?_⟩
  rw [List.length_append, Nat.add_comm]

theorem OpensAfter.exists_of_blank {c : Char} {cs : List Char} {n : Nat}
    (hc : Text.isBlank c = true) (h : OpensAfter (c :: cs) n) :
    ∃ m, n = m + 1 ∧ OpensAfter cs m := by
  obtain ⟨pad, rest, hcs, hpad, hrest, rfl⟩ := h
  cases hpad with
  | nil =>
    obtain ⟨r, rfl, -⟩ := hrest
    cases hcs
    cases hc
  | blank _ hpad =>
    cases hcs
    exact ⟨_, rfl, _, rest, rfl, hpad, hrest, rfl⟩
  | lineComment =>
    cases hcs
    cases hc
  | blockComment =>
    cases hcs
    cases hc

/-- Where padding cannot be read, a comment never closes. -/
theorem opensAfter_of_trivia {cs : List Char} {cause : FaultCause} {n used : Nat}
    (h : trivia cs = ⟨.error (cause, n), used⟩) :
    cause = .unterminatedComment ∧ OpensAfter cs n := by
  induction cs using trivia.induct generalizing n used with
  | case1 r ih =>
    by_cases hline : '\n' ∈ r
    · obtain ⟨body, r, rfl, hbody⟩ := List.eq_append_cons_of_mem hline
      rw [trivia_lineComment hbody] at h
      rw [dropWhile_line hbody] at ih
      obtain ⟨m, used', hm, rfl⟩ := Scan.after_eq_error h
      obtain ⟨hcause, hopens⟩ := ih hm
      -- the line end is read as a blank, yet it closes the comment
      obtain ⟨m, rfl, hr⟩ := hopens.exists_of_blank rfl
      have hcomment := hr.append (.lineComment hbody .nil)
      have hlength : m + 1 + (2 + body.length) = m + (body.length + 3) := by omega
      exact ⟨hcause, by simpa [hlength] using hcomment⟩
    · have hlast : LastComment ('/' :: '/' :: r) := ⟨r, rfl, hline⟩
      cases hlast.trivia_eq.symm.trans h
  | case2 r hend =>
    rw [trivia_slashStar, hend] at h
    cases h
    exact ⟨rfl, [], _, rfl, .nil, ⟨r, rfl, not_closed_of_commentEnd? hend⟩, rfl⟩
  | case3 r k hend ih =>
    obtain ⟨body, r, rfl, rfl, hbody⟩ := commentEnd?_eq_some hend
    rw [trivia_blockComment hbody] at h
    obtain ⟨m, used', hm, rfl⟩ := Scan.after_eq_error h
    have hdrop : (body ++ '*' :: '/' :: r).drop (body.length + 2) = r := by
      rw [List.drop_append]
      simp
    rw [hdrop] at ih
    obtain ⟨hcause, hopens⟩ := ih hm
    have hcomment := hopens.append (.blockComment hbody .nil)
    exact ⟨hcause, by simpa [Nat.add_comm 2] using hcomment⟩
  | case4 c r h₁ h₂ hc ih =>
    rw [trivia_of_blank hc] at h
    obtain ⟨m, used', hm, rfl⟩ := Scan.after_eq_error h
    obtain ⟨hcause, hopens⟩ := ih hm
    exact ⟨hcause, hopens.append (.blank hc .nil)⟩
  | case5 c r h₁ h₂ hc =>
    rw [trivia.eq_def] at h
    split at h
    · next heq => exact absurd (List.cons.inj heq).2 (h₁ _ (List.cons.inj heq).1)
    · next heq => exact absurd (List.cons.inj heq).2 (h₂ _ (List.cons.inj heq).1)
    · next heq =>
      obtain ⟨rfl, rfl⟩ := List.cons.inj heq
      simp [hc] at h
    · cases h
  | case6 =>
    rw [unpadded_nil] at h
    cases h

/-! ## Where no token can be read -/

/-- What is at fault in characters that no token can be read from, and how many of them stand before
the place at fault. -/
inductive Broken : List Char → FaultCause → Nat → Prop
  | comment {cs} : OpenComment cs → Broken cs .unterminatedComment 0
  | unclosed {q body ns rest} : isQuote q = true → Units q body ns → Unclosed q rest →
      Broken (q :: (body ++ rest)) .unterminatedString 0
  | unpaired {q body ns rest} : isQuote q = true → Units q body ns →
      Text.joinSurrogates ns = none → Broken (q :: (body ++ q :: rest)) .unpairedSurrogate 0
  | badEscape {q body ns rest} : isQuote q = true → Units q body ns → BadEscape rest →
      Broken (q :: (body ++ rest)) .invalidEscape (body.length + 1)

/-- The place at fault is not behind the text. -/
theorem Broken.le {cs : List Char} {cause : FaultCause} {n : Nat} (h : Broken cs cause n) :
    n ≤ cs.length := by
  cases h with
  | badEscape => simp
  | _ => exact Nat.zero_le _

theorem broken_of_tokenScan {x : Char} {r : List Char} {cause : FaultCause} {n used : Nat}
    (h : tokenScan x r = ⟨.error (cause, n), used⟩) : Broken (x :: r) cause n := by
  rw [tokenScan] at h
  split_ifs at h with hquote
  swap
  · cases h
  have hreads := readsString_stringLiteral hquote r
  cases hscan : stringLiteral (x :: r) with
  | mk outcome used =>
    rw [hscan] at h hreads
    cases hreads with
    | string => cases h
    | unpaired hbody hvalue =>
      cases h
      exact .unpaired hquote hbody hvalue
    | unclosed hbody hunclosed =>
      cases h
      exact .unclosed hquote hbody hunclosed
    | badEscape hbody hbad =>
      cases h
      exact .badEscape hquote hbody hbad

/-- The characters before `rest` are whole tokens and padding. -/
inductive Scanned : List Char → List Char → Prop
  | start {cs} : Scanned [] cs
  | padding {before pad rest} : Scanned before (pad ++ rest) → Padding pad →
      Scanned (before ++ pad) rest
  | token {before chars rest l} : Scanned before (chars ++ rest) → Spelled rest l chars →
      Scanned (before ++ chars) rest

theorem Cursor.position_forward_between (before front rest : List Char) :
    ((between before (front ++ rest)).forward front.length).position =
      Position.after (before ++ front) := by
  rw [forward_between]
  rfl

/-- Where reading tokens stops, what lies ahead is broken. -/
theorem exists_broken {before cs : List Char} {f : Fault} (hscanned : Scanned before cs)
    (h : (Cursor.between before cs).tokens.fault = some f) :
    ∃ front rest n, before ++ cs = front ++ rest ∧ Scanned front rest ∧ Broken rest f.cause n ∧
      f.position = Position.after (front ++ rest.take n) := by
  -- on the length, for what is left after a token is no tail of the characters
  induction hn : cs.length using Nat.strong_induction_on generalizing before cs with
  | h n ih =>
  cases htrivia : trivia cs with
  | mk outcome used =>
  cases outcome with
  | error e =>
    obtain ⟨cause, k⟩ := e
    obtain ⟨rfl, pad, rest, rfl, hpad, hopen, rfl⟩ := opensAfter_of_trivia htrivia
    rw [Cursor.tokens_of_trivia_error (c := .between before (pad ++ rest)) htrivia,
      Option.some.injEq] at h
    subst h
    refine ⟨before ++ pad, rest, 0, (List.append_assoc _ _ _).symm, hscanned.padding hpad,
      .comment hopen, ?_⟩
    rw [List.take_zero, List.append_nil]
    exact Cursor.position_forward_between before pad rest
  | ok u =>
    obtain ⟨pad, rest, rfl, hpad, ⟨hunpadded, rfl⟩ | ⟨hlast, rfl⟩⟩ := padsUpTo_of_trivia htrivia
    · rw [Cursor.tokens_of_padding _ hpad] at h
      have hscanned' := hscanned.padding hpad
      rw [← List.append_assoc]
      cases rest with
      | nil =>
        rw [Cursor.tokens_of_nil rfl] at h
        cases h
      | cons x r =>
        cases hscan : tokenScan x r with
        | mk outcome used =>
        cases outcome with
        | error e =>
          obtain ⟨cause, k⟩ := e
          rw [Cursor.tokens_of_tokenScan_error (c := .between (before ++ pad) (x :: r)) rfl
            hunpadded hscan, Option.some.injEq] at h
          subst h
          have hbroken := broken_of_tokenScan hscan
          refine ⟨before ++ pad, x :: r, k, rfl, hscanned', hbroken, ?_⟩
          have hforward := Cursor.position_forward_between (before ++ pad) ((x :: r).take k)
            ((x :: r).drop k)
          rwa [List.take_append_drop, List.length_take, Nat.min_eq_left hbroken.le] at hforward
        | ok l =>
          obtain ⟨taken, rest, rfl, rfl, hspelled⟩ := exists_spelled hunpadded hscan
          rw [← List.cons_append] at h hscanned' ⊢
          rw [Cursor.tokens_of_spelled _ hspelled] at h
          rw [← List.append_assoc]
          refine ih _ ?_ (hscanned'.token hspelled) h rfl
          simp only [List.length_append, List.length_cons] at hn
          omega
    · have htrailing : Trailing (pad ++ rest) := ⟨pad, rest, rfl, hpad, .inr hlast⟩
      rw [Cursor.tokens_of_trailing _ htrailing] at h
      cases h

/-! ## Broken characters stop the reading -/

/-- Whole tokens and padding are read without a fault. -/
theorem Scanned.fault_eq {before rest : List Char} (h : Scanned before rest) :
    (Cursor.between [] (before ++ rest)).tokens.fault =
      (Cursor.between before rest).tokens.fault := by
  induction h with
  | start => rfl
  | padding _ hpad ih => rw [List.append_assoc, ih, Cursor.tokens_of_padding _ hpad]
  | token _ hspelled ih => rw [List.append_assoc, ih, Cursor.tokens_of_spelled _ hspelled]

theorem commentEnd?_eq_none {cs : List Char} (h : ¬ ['*', '/'] <:+: cs) :
    commentEnd? cs = none := by
  cases hend : commentEnd? cs with
  | none => rfl
  | some n =>
    obtain ⟨body, rest, rfl, -, -⟩ := commentEnd?_eq_some hend
    exact absurd ⟨body, rest, by simp⟩ h

theorem unpadded_of_isQuote {q : Char} (hq : isQuote q = true) (cs : List Char) :
    Unpadded (q :: cs) := by
  obtain rfl | rfl | rfl := isQuote_iff.mp hq <;> exact unpadded_of_ne_slash rfl (by decide)

theorem Broken.tokens_fault {before cs : List Char} {cause : FaultCause} {n : Nat}
    (h : Broken cs cause n) : (Cursor.between before cs).tokens.fault =
      some ⟨cause, Position.after (before ++ cs.take n)⟩ := by
  have hforward := Cursor.position_forward_between before (cs.take n) (cs.drop n)
  rw [List.take_append_drop, List.length_take, Nat.min_eq_left h.le] at hforward
  rw [← hforward]
  -- a string at fault is scanned as a token, and its scan fails
  have hstring {q : Char} {r : List Char} (hq : isQuote q = true) (hcs : cs = q :: r)
      (hscan : ∃ used, stringLiteral (q :: r) = ⟨.error (cause, n), used⟩) :
      (Cursor.between before cs).tokens.fault =
        some ⟨cause, ((Cursor.between before cs).forward n).position⟩ := by
    obtain ⟨used, hused⟩ := hscan
    have htoken : tokenScan q r = ⟨.error (cause, n), used⟩ := by
      rw [tokenScan, if_pos hq, hused]
      rfl
    rw [Cursor.tokens_of_tokenScan_error (c := .between before cs) hcs (unpadded_of_isQuote hq r)
      htoken]
  cases h with
  | comment hopen =>
    obtain ⟨r, rfl, hclosed⟩ := hopen
    have htrivia : trivia ('/' :: '*' :: r) = ⟨.error (.unterminatedComment, 0), 2 + r.length⟩ := by
      rw [trivia_slashStar, commentEnd?_eq_none hclosed]
    rw [Cursor.tokens_of_trivia_error (c := .between before ('/' :: '*' :: r)) htrivia]
  | unclosed hq hbody hrest =>
    exact hstring hq rfl (exists_stringLiteral_unclosed hq hbody hrest)
  | unpaired hq hbody hvalue =>
    exact hstring hq rfl (exists_stringLiteral_unpaired hq hbody hvalue)
  | badEscape hq hbody hrest =>
    exact hstring hq rfl (exists_stringLiteral_badEscape hq hbody hrest)

/-- No tokens are read exactly if the text is broken behind whole tokens and padding; the fault is
reported there. -/
theorem tokens_eq_error_iff {text : String} {f : Fault} : tokens text = .error f ↔
    ∃ front rest n, text.toList = front ++ rest ∧ Scanned front rest ∧ Broken rest f.cause n ∧
      f.position = Position.after (front ++ rest.take n) := by
  have htokens : tokens text = .error f ↔
      (Cursor.between [] text.toList).tokens.fault = some f := by
    rw [tokens, Cursor.start_eq_between]
    cases (Cursor.between [] text.toList).tokens.fault <;> simp
  rw [htokens]
  constructor
  · exact exists_broken .start
  · rintro ⟨front, rest, n, htext, hscanned, hbroken, hposition⟩
    rw [htext, hscanned.fault_eq, hbroken.tokens_fault, ← hposition]

end SchemaGrammar.Source
