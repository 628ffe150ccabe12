import Mathlib.Data.List.TakeWhile
import SchemaGrammar.Proofs.Source.Lexemes

/-!
# Padding

Between tokens there is padding: blanks, comments that end with their line, and comments that close.
After the last token a comment may also end with the text.
-/
namespace SchemaGrammar.Source

/-- Blanks and comments. A block comment closes at its first `*/`. -/
inductive Padding : List Char → Prop
  | nil : Padding []
  | blank {c pad} : Text.isBlank c = true → Padding pad → Padding (c :: pad)
  | lineComment {body pad} : '\n' ∉ body → Padding pad →
      Padding ('/' :: '/' :: (body ++ '\n' :: pad))
  | blockComment {body pad} : ¬ ['*', '/'] <:+: body ++ ['*'] → Padding pad →
      Padding ('/' :: '*' :: (body ++ '*' :: '/' :: pad))

def LastComment (cs : List Char) : Prop := ∃ body, cs = '/' :: '/' :: body ∧ '\n' ∉ body

/-- What may stand after the last token: padding, and then perhaps a comment that ends with the
text. -/
def Trailing (cs : List Char) : Prop :=
  ∃ pad last, cs = pad ++ last ∧ Padding pad ∧ (last = [] ∨ LastComment last)

namespace Padding

theorem append {pad more : List Char} (h : Padding pad) (hmore : Padding more) :
    Padding (pad ++ more) := by
  induction h with
  | nil => exact hmore
  | blank hc _ ih => exact .blank hc ih
  | lineComment hbody _ ih =>
    rw [List.cons_append, List.cons_append, List.append_assoc]
    exact .lineComment hbody ih
  | blockComment hbody _ ih =>
    rw [List.cons_append, List.cons_append, List.append_assoc]
    exact .blockComment hbody ih

end Padding

def BeginsComment (cs : List Char) : Prop := ['/', '/'] <+: cs ∨ ['/', '*'] <+: cs

/-! ## Where a comment closes -/

/-- The body of a comment would close it at its first character, or after that. -/
theorem closesComment_cons {c : Char} {body : List Char} :
    ['*', '/'] <:+: (c :: body) ++ ['*'] ↔
      (c = '*' ∧ body.head? = some '/') ∨ ['*', '/'] <:+: body ++ ['*'] := by
  rw [List.cons_append, List.infix_cons_iff, List.cons_prefix_cons]
  refine or_congr_left (and_congr eq_comm ?_)
  cases body with
  | nil => decide
  | cons d body =>
    rw [List.cons_append, List.cons_prefix_cons, List.head?_cons, Option.some.injEq]
    exact (and_iff_left (List.nil_prefix)).trans eq_comm

theorem commentEnd?_eq_some {cs : List Char} {n : Nat} (h : commentEnd? cs = some n) :
    ∃ body rest, cs = body ++ '*' :: '/' :: rest ∧ n = body.length + 2 ∧
      ¬ ['*', '/'] <:+: body ++ ['*'] := by
  induction cs using commentEnd?.induct generalizing n with
  | case1 => cases h
  | case2 rest =>
    cases h
    exact ⟨[], rest, rfl, rfl, fun hclosed => absurd hclosed.length_le (by decide)⟩
  | case3 c r hc ih =>
    have hcons : commentEnd? (c :: r) = (commentEnd? r).map (· + 1) := by
      rw [commentEnd?]
      exact hc
    rw [hcons] at h
    obtain ⟨m, hm, rfl⟩ := Option.map_eq_some_iff.mp h
    obtain ⟨body, rest, rfl, rfl, hbody⟩ := ih hm
    refine ⟨c :: body, rest, rfl, by simp, ?_⟩
    rw [closesComment_cons]
    rintro (⟨rfl, hhead⟩ | hclosed)
    · obtain ⟨body', rfl⟩ := List.head?_eq_some_iff.mp hhead
      exact hc _ rfl rfl
    · exact hbody hclosed

theorem commentEnd?_append {body : List Char} (h : ¬ ['*', '/'] <:+: body ++ ['*'])
    (rest : List Char) : commentEnd? (body ++ '*' :: '/' :: rest) = some (body.length + 2) := by
  induction body with
  | nil => rfl
  | cons c body ih =>
    rw [closesComment_cons, not_or] at h
    rw [List.cons_append, commentEnd?, ih h.2]
    · rfl
    · rintro r rfl hr
      cases body with
      | nil => cases hr
      | cons d body =>
        cases hr
        exact h.1 ⟨rfl, rfl⟩

/-! ## Reading padding -/

theorem Scan.after_after {α : Type} (s : Scan α) (n m : Nat) :
    (s.after n).after m = s.after (n + m) := by
  obtain ⟨outcome, used⟩ := s
  cases outcome <;> simp [after, Nat.add_assoc]

theorem Scan.after_eq_ok {s : Scan Unit} {n k : Nat} (h : s.after n = ⟨.ok (), k⟩) :
    ∃ m, s = ⟨.ok (), m⟩ ∧ k = m + n := by
  obtain ⟨outcome, used⟩ := s
  cases outcome with
  | error e =>
    rw [after, mk.injEq] at h
    cases h.1
  | ok u =>
    cases h
    exact ⟨used, rfl, rfl⟩

theorem forall_ne_lineEnd {body : List Char} (h : '\n' ∉ body) :
    ∀ c ∈ body, decide (c ≠ '\n') = true := by
  intro c hc
  rw [decide_eq_true_eq]
  rintro rfl
  exact h hc

theorem dropWhile_line {body : List Char} (h : '\n' ∉ body) (rest : List Char) :
    (body ++ '\n' :: rest).dropWhile (· ≠ '\n') = '\n' :: rest := by
  rw [List.dropWhile_append_of_pos (forall_ne_lineEnd h), List.dropWhile_cons_of_neg (by simp)]

-- the equations of `trivia` are stated here one by one, each from its definition

theorem trivia_slashes (r : List Char) : trivia ('/' :: '/' :: r) =
    (trivia (r.dropWhile (· ≠ '\n'))).after (2 + (r.takeWhile (· ≠ '\n')).length) := by
  rw [trivia.eq_def]
  rfl

theorem trivia_slashStar (r : List Char) : trivia ('/' :: '*' :: r) =
    match commentEnd? r with
    | none => ⟨.error (.unterminatedComment, 0), 2 + r.length⟩
    | some n => (trivia (r.drop n)).after (2 + n) := by
  rw [trivia.eq_def]
  rfl

theorem unpadded_cons_iff {c : Char} {r : List Char} :
    Unpadded (c :: r) ↔ Text.isBlank c = false ∧ ¬ BeginsComment (c :: r) := by
  constructor
  · intro h
    refine ⟨?_, ?_⟩
    · rw [← Bool.not_eq_true]
      intro hc
      rw [Unpadded, trivia_of_blank hc] at h
      obtain ⟨m, -, hm⟩ := Scan.after_eq_ok h
      omega
    · rintro (⟨r, heq⟩ | ⟨r, heq⟩)
      · rw [← heq, Unpadded, List.cons_append, List.cons_append, List.nil_append,
          trivia_slashes] at h
        obtain ⟨m, -, hm⟩ := Scan.after_eq_ok h
        omega
      · rw [← heq, Unpadded, List.cons_append, List.cons_append, List.nil_append,
          trivia_slashStar] at h
        cases hend : commentEnd? r with
        | none => simp [hend] at h
        | some n =>
          rw [hend] at h
          obtain ⟨m, -, hm⟩ := Scan.after_eq_ok h
          omega
  · rintro ⟨hc, hcomment⟩
    rw [Unpadded, trivia.eq_def]
    split
    · next r' heq => exact absurd (.inl ⟨r', heq.symm⟩) hcomment
    · next r' heq => exact absurd (.inr ⟨r', heq.symm⟩) hcomment
    · next heq =>
      obtain ⟨rfl, rfl⟩ := List.cons.inj heq
      simp [hc]
    · rfl

theorem trivia_lineComment {body : List Char} (h : '\n' ∉ body) (rest : List Char) :
    trivia ('/' :: '/' :: (body ++ '\n' :: rest)) =
      (trivia ('\n' :: rest)).after (2 + body.length) := by
  rw [trivia_slashes, dropWhile_line h, List.takeWhile_append_of_pos (forall_ne_lineEnd h),
    List.takeWhile_cons_of_neg (by simp), List.append_nil]

theorem trivia_blockComment {body : List Char} (h : ¬ ['*', '/'] <:+: body ++ ['*'])
    (rest : List Char) :
    trivia ('/' :: '*' :: (body ++ '*' :: '/' :: rest)) =
      (trivia rest).after (2 + (body.length + 2)) := by
  have hdrop : (body ++ '*' :: '/' :: rest).drop (body.length + 2) = rest := by
    rw [List.drop_append]
    simp
  rw [trivia_slashStar, commentEnd?_append h]
  dsimp only
  rw [hdrop]

/-- Padding does not change what is read after it. -/
theorem Padding.trivia_append {pad : List Char} (h : Padding pad) (rest : List Char) :
    trivia (pad ++ rest) = (trivia rest).after pad.length := by
  induction h with
  | nil =>
    rw [List.nil_append, List.length_nil, Scan.after]
    cases h : trivia rest with
    | mk outcome used => cases outcome <;> rfl
  | blank hc _ ih =>
    rw [List.cons_append, trivia_of_blank hc, ih, Scan.after_after]
    rfl
  | @lineComment body pad hbody _ ih =>
    rw [List.cons_append, List.cons_append, List.append_assoc, List.cons_append,
      trivia_lineComment hbody, trivia_of_blank rfl, ih, Scan.after_after, Scan.after_after]
    congr 1
    simp
    omega
  | @blockComment body pad hbody _ ih =>
    rw [List.cons_append, List.cons_append, List.append_assoc, List.cons_append, List.cons_append,
      trivia_blockComment hbody, ih, Scan.after_after]
    congr 1
    simp
    omega

theorem LastComment.trivia_eq {cs : List Char} (h : LastComment cs) :
    trivia cs = ⟨.ok (), cs.length⟩ := by
  obtain ⟨body, rfl, hbody⟩ := h
  have hdrop : body.dropWhile (· ≠ '\n') = [] :=
    List.dropWhile_eq_nil_iff.mpr (forall_ne_lineEnd hbody)
  rw [trivia_slashes, hdrop, unpadded_nil, List.takeWhile_eq_self_iff.mpr (forall_ne_lineEnd hbody),
    Scan.after]
  congr 1
  simp only [List.length_cons]
  omega

theorem Trailing.trivia_eq {cs : List Char} (h : Trailing cs) :
    trivia cs = ⟨.ok (), cs.length⟩ := by
  obtain ⟨pad, last, rfl, hpad, hlast⟩ := h
  have htrivia : trivia last = ⟨.ok (), last.length⟩ := by
    obtain rfl | hlast := hlast
    · exact unpadded_nil
    · exact hlast.trivia_eq
  rw [hpad.trivia_append, htrivia, List.length_append, Nat.add_comm]
  rfl

/-- The first `n` of the characters are padding before a token, or padding up to the end. -/
def PadsUpTo (cs : List Char) (n : Nat) : Prop :=
  ∃ pad rest, cs = pad ++ rest ∧ Padding pad ∧
    (Unpadded rest ∧ n = pad.length ∨ LastComment rest ∧ n = cs.length)

namespace PadsUpTo

variable {cs : List Char} {n : Nat}

theorem append {pad : List Char} (hpad : Padding pad) (h : PadsUpTo cs n) :
    PadsUpTo (pad ++ cs) (n + pad.length) := by
  obtain ⟨more, rest, rfl, hmore, hrest⟩ := h
  refine ⟨pad ++ more, rest, (List.append_assoc _ _ _).symm, hpad.append hmore, ?_⟩
  obtain ⟨hunpadded, rfl⟩ | ⟨hlast, rfl⟩ := hrest
  · exact .inl ⟨hunpadded, (List.length_append.trans (Nat.add_comm _ _)).symm⟩
  · exact .inr ⟨hlast, (List.length_append.trans (Nat.add_comm _ _)).symm⟩

/-- A blank belongs to the padding. -/
theorem exists_of_blank {c : Char} (hc : Text.isBlank c = true) (h : PadsUpTo (c :: cs) n) :
    ∃ m, n = m + 1 ∧ PadsUpTo cs m := by
  obtain ⟨pad, rest, hcs, hpad, hrest⟩ := h
  cases hpad with
  | nil =>
    rw [List.nil_append] at hcs
    subst hcs
    obtain ⟨hunpadded, -⟩ | ⟨⟨_, hlast, -⟩, -⟩ := hrest
    · rw [(unpadded_cons_iff.mp hunpadded).1] at hc
      cases hc
    · cases hlast
      cases hc
  | @blank c pad _ hpad =>
    cases hcs
    obtain ⟨hunpadded, rfl⟩ | ⟨hlast, rfl⟩ := hrest
    · exact ⟨pad.length, rfl, pad, rest, rfl, hpad, .inl ⟨hunpadded, rfl⟩⟩
    · exact ⟨(pad ++ rest).length, rfl, pad, rest, rfl, hpad, .inr ⟨hlast, rfl⟩⟩
  | lineComment =>
    cases hcs
    cases hc
  | blockComment =>
    cases hcs
    cases hc

theorem unpadded_drop (h : PadsUpTo cs n) : Unpadded (cs.drop n) := by
  obtain ⟨pad, rest, rfl, -, ⟨hunpadded, rfl⟩ | ⟨-, rfl⟩⟩ := h
  · rwa [List.drop_left]
  · rw [List.drop_length]
    exact unpadded_nil

end PadsUpTo

/-- What is read as padding ends where the characters are unpadded, or in the last comment. -/
theorem padsUpTo_of_trivia {cs : List Char} {n : Nat} (h : trivia cs = ⟨.ok (), n⟩) :
    PadsUpTo cs n := by
  induction cs using trivia.induct generalizing n with
  | case1 r ih =>
    by_cases hline : '\n' ∈ r
    · obtain ⟨body, r, rfl, hbody⟩ := List.eq_append_cons_of_mem hline
      rw [trivia_lineComment hbody] at h
      rw [dropWhile_line hbody] at ih
      obtain ⟨m, hm, rfl⟩ := Scan.after_eq_ok h
      -- the line end is read as a blank, yet it closes the comment
      obtain ⟨m, rfl, hr⟩ := (ih hm).exists_of_blank rfl
      have hcomment := hr.append (.lineComment hbody .nil)
      have hlength : m + 1 + (2 + body.length) = m + (body.length + 3) := by omega
      simpa [hlength] using hcomment
    · have hlast : LastComment ('/' :: '/' :: r) := ⟨r, rfl, hline⟩
      cases hlast.trivia_eq.symm.trans h
      exact ⟨[], _, rfl, .nil, .inr ⟨hlast, rfl⟩⟩
  | case2 r hend =>
    rw [trivia_slashStar, hend, Scan.mk.injEq] at h
    cases h.1
  | case3 r k hend ih =>
    obtain ⟨body, r, rfl, rfl, hbody⟩ := commentEnd?_eq_some hend
    rw [trivia_blockComment hbody] at h
    obtain ⟨m, hm, rfl⟩ := Scan.after_eq_ok h
    have hdrop : (body ++ '*' :: '/' :: r).drop (body.length + 2) = r := by
      rw [List.drop_append]
      simp
    rw [hdrop] at ih
    have hcomment := (ih hm).append (.blockComment hbody .nil)
    simpa [Nat.add_comm 2] using hcomment
  | case4 c r h₁ h₂ hc ih =>
    rw [trivia_of_blank hc] at h
    obtain ⟨m, hm, rfl⟩ := Scan.after_eq_ok h
    exact (ih hm).append (.blank hc .nil)
  | case5 c r h₁ h₂ hc =>
    have hunpadded : Unpadded (c :: r) := by
      rw [unpadded_cons_iff]
      refine ⟨by simpa using hc, ?_⟩
      rintro (⟨r', heq⟩ | ⟨r', heq⟩)
      · exact h₁ r' (List.cons.inj heq).1.symm (List.cons.inj heq).2.symm
      · exact h₂ r' (List.cons.inj heq).1.symm (List.cons.inj heq).2.symm
    cases hunpadded.symm.trans h
    exact ⟨[], _, rfl, .nil, .inl ⟨hunpadded, rfl⟩⟩
  | case6 =>
    cases unpadded_nil.symm.trans h
    exact ⟨[], [], rfl, .nil, .inl ⟨unpadded_nil, rfl⟩⟩

end SchemaGrammar.Source
