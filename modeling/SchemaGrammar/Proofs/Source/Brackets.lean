import SchemaGrammar.Proofs.Source.Reading
import SchemaGrammar.Source.Enumerations

/-!
# Tokens in brackets

Tokens are bracketed if every bracket that opens among them is closed by its partner, those that
open last first. Then a reader that counts brackets leaves them at the depth at which it came, and a
token stands outside if what is in front of it is bracketed.
-/
namespace SchemaGrammar.Source

/-! ## Brackets -/

def Mark.partner? : Mark → Option Mark
  | openBrace => some closeBrace
  | openBracket => some closeBracket
  | openParen => some closeParen
  | openAngle => some closeAngle
  | _ => none

def braces : List Mark := [.openBrace, .openParen, .openBracket]

def isBracket (openers : List Mark) (kind : TokenKind) : Bool :=
  openers.any fun m => kind = .mark m || m.partner?.any fun m' => kind = .mark m'

inductive Bracketed (openers : List Mark) : List Token → Prop
  | nil : Bracketed openers []
  | token {t ts} : isBracket openers t.kind = false → Bracketed openers ts →
      Bracketed openers (t :: ts)
  | group {m m' opening closing ts} (inner) : m ∈ openers → m.partner? = some m' →
      opening.kind = .mark m → closing.kind = .mark m' → Bracketed openers inner →
      Bracketed openers ts → Bracketed openers (opening :: (inner ++ closing :: ts))

/-- The token `t` of `ts` stands in no bracket, and `before` is in front of it. -/
structure Outside (openers : List Mark) (ts before : List Token) (t : Token) : Prop where
  exists_behind : ∃ behind, ts = before ++ t :: behind
  bracketed : Bracketed openers before

variable {openers : List Mark} {ts before : List Token} {t x : Token} {m m' : Mark}

namespace Outside

theorem head : Outside openers (t :: ts) [] t := ⟨⟨ts, rfl⟩, .nil⟩

theorem token (ht : isBracket openers t.kind = false) (h : Outside openers ts before x) :
    Outside openers (t :: ts) (t :: before) x := by
  obtain ⟨behind, rfl⟩ := h.exists_behind
  exact ⟨⟨behind, rfl⟩, .token ht h.bracketed⟩

theorem group {opening closing : Token} {inner : List Token} (hm : m ∈ openers)
    (hm' : m.partner? = some m') (hopening : opening.kind = .mark m)
    (hclosing : closing.kind = .mark m') (hinner : Bracketed openers inner)
    (h : Outside openers ts before x) :
    Outside openers (opening :: (inner ++ closing :: ts)) (opening :: (inner ++ closing :: before))
      x := by
  obtain ⟨behind, rfl⟩ := h.exists_behind
  exact ⟨⟨behind, by simp⟩, .group inner hm hm' hopening hclosing hinner h.bracketed⟩

end Outside

theorem isBracket_of_mem (hm : m ∈ openers) : isBracket openers (.mark m) = true := by
  rw [isBracket, List.any_eq_true]
  exact ⟨m, hm, by simp⟩

theorem isBracket_of_partner (hm : m ∈ openers) (hm' : m.partner? = some m') :
    isBracket openers (.mark m') = true := by
  rw [isBracket, List.any_eq_true]
  exact ⟨m, hm, by simp [hm']⟩

theorem ne_mark_of_isBracket {kind : TokenKind} (h : isBracket openers kind = false)
    (hm : isBracket openers (.mark m) = true) : kind ≠ .mark m := by
  rintro rfl
  rw [hm] at h
  cases h

theorem Bracketed.tail (h : Bracketed openers (t :: ts)) (ht : isBracket openers t.kind = false) :
    Bracketed openers ts := by
  generalize hall : t :: ts = all at h
  cases h with
  | nil => cases hall
  | token _ hts =>
    cases hall
    exact hts
  | group _ hm _ hopening =>
    cases hall
    exact absurd hopening (ne_mark_of_isBracket ht (isBracket_of_mem hm))

/-- No bracket is closed before it opens. -/
theorem Bracketed.head_ne_partner (h : Bracketed openers (t :: ts)) (hm : m ∈ openers)
    (hm' : m.partner? = some m') (hopeners : m' ∉ openers) : t.kind ≠ .mark m' := by
  intro hkind
  cases h with
  | token ht _ => exact ne_mark_of_isBracket ht (isBracket_of_partner hm hm') hkind
  | group _ hn _ hopening =>
    rw [hkind, TokenKind.mark.injEq] at hopening
    exact hopeners (hopening ▸ hn)

/-! ## Counting -/

def count (kind : TokenKind) (ts : List Token) : Nat := ts.countP (·.kind = kind)

@[simp] theorem count_nil (kind : TokenKind) : count kind [] = 0 := rfl

theorem count_append (kind : TokenKind) (ts ts' : List Token) :
    count kind (ts ++ ts') = count kind ts + count kind ts' := List.countP_append

theorem count_cons (kind : TokenKind) (t : Token) (ts : List Token) :
    count kind (t :: ts) = count kind ts + if t.kind = kind then 1 else 0 := by
  simp [count, List.countP_cons]

theorem Mark.partners_differ {n n' : Mark} (hm : m.partner? = some m') (hn : n.partner? = some n') :
    n ≠ m' ∧ n' ≠ m ∧ (n = m ↔ n' = m') := by
  cases m <;> cases hm <;> cases n <;> cases hn <;> decide

theorem Bracketed.count_eq (h : Bracketed openers ts) (hm : m ∈ openers)
    (hm' : m.partner? = some m') : count (.mark m) ts = count (.mark m') ts := by
  induction h with
  | nil => rfl
  | @token t ts ht _ ih =>
    have hopen := ne_mark_of_isBracket ht (isBracket_of_mem hm)
    have hclose := ne_mark_of_isBracket ht (isBracket_of_partner hm hm')
    rw [count_cons, count_cons, if_neg hopen, if_neg hclose, ih]
  | @group n n' opening closing ts inner hn hn' hopening hclosing _ _ ihinner ihts =>
    obtain ⟨hopen, hclose, hiff⟩ := Mark.partners_differ hm' hn'
    simp only [count_cons, count_append, hopening, hclosing, TokenKind.mark.injEq, hopen, hclose,
      hiff, ihinner, ihts]
    simp only [if_false]
    omega

/-- What holds of each place in a list holds where the list is split. -/
theorem of_forall_take {P : List Token → Token → Prop} {behind : List Token}
    (hall : ∀ n < ts.length, ∀ x ∈ ts[n]?, P (ts.take n) x) (h : ts = before ++ t :: behind) :
    P before t := by
  subst h
  have hat := hall before.length (by simp) t (by simp)
  rwa [List.take_left] at hat

theorem Outside.of_forall {P : List Token → Token → Prop} (h : Outside openers ts before t)
    (hall : ∀ n < ts.length, ∀ x ∈ ts[n]?, P (ts.take n) x) : P before t := by
  obtain ⟨behind, hsplit⟩ := h.exists_behind
  exact of_forall_take hall hsplit

/-- No token of a kind stands outside if in front of each one more brackets open than close. -/
theorem Outside.kind_ne_of_count (h : Outside openers ts before t) (hm : m ∈ openers)
    (hm' : m.partner? = some m') {kind : TokenKind}
    (hcount : ∀ n < ts.length, ∀ x ∈ ts[n]?, x.kind = kind →
      count (.mark m) (ts.take n) ≠ count (.mark m') (ts.take n)) : t.kind ≠ kind := by
  intro hkind
  have hne := h.of_forall
    (P := fun before x => x.kind = kind → count (.mark m) before ≠ count (.mark m') before) hcount
  exact hne hkind (h.bracketed.count_eq hm hm')

/-! ## Depth -/

theorem depthAfter_token {kind : TokenKind} (h : isBracket braces kind = false) (depth : Int) :
    depthAfter depth kind = depth := by
  cases kind with
  | mark m => cases m <;> first | rfl | cases h
  | _ => rfl

theorem depthAfter_opening (hm : m ∈ braces) (depth : Int) :
    depthAfter depth (.mark m) = depth + 1 := by
  have hopens : ∀ m ∈ braces, (TokenKind.mark m).opens = true := by decide
  rw [depthAfter, if_pos (hopens m hm)]

theorem depthAfter_closing (hm : m ∈ braces) (hm' : m.partner? = some m') (depth : Int) :
    depthAfter (depth + 1) (.mark m') = depth := by
  have hcloses : ∀ m ∈ braces, ∀ m' ∈ m.partner?,
      (TokenKind.mark m').opens = false ∧ (TokenKind.mark m').closes = true := by decide
  obtain ⟨hopen, hclose⟩ := hcloses m hm m' hm'
  rw [depthAfter, hopen, hclose]
  simp

end SchemaGrammar.Source
