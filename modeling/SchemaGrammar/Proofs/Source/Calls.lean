import SchemaGrammar.Proofs.Source.Places
import SchemaGrammar.Source.Calls

/-!
# What calls keep

A call moves a reader forward and adds tokens behind those it has; that is all it does, whether or
not it finds a fault. So after any calls the reader stands at a place of its text, told by counting,
and its tokens stand in the order of their places.
-/
namespace SchemaGrammar.Source

/-! ## Places in order -/

def Position.AtOrBefore (p q : Position) : Prop :=
  p.line < q.line ∨ p.line = q.line ∧ p.column ≤ q.column

namespace Position.AtOrBefore

variable {p q r : Position}

theorem refl : p.AtOrBefore p := .inr ⟨rfl, Nat.le_refl _⟩

theorem trans (hpq : p.AtOrBefore q) (hqr : q.AtOrBefore r) : p.AtOrBefore r := by
  unfold AtOrBefore at *
  omega

theorem step (c : Char) : p.AtOrBefore (p.step c) := by
  unfold Position.step
  split_ifs
  · exact .inl (Nat.lt_succ_self _)
  · exact .inr ⟨rfl, Nat.le_succ _⟩

end Position.AtOrBefore

/-- Tokens between two places, each at or after the one before it. -/
inductive Ascends : Position → List Token → Position → Prop
  | nil {p q} : p.AtOrBefore q → Ascends p [] q
  | cons {p t ts q} : p.AtOrBefore t.position → Ascends t.position ts q → Ascends p (t :: ts) q

namespace Ascends

variable {p q r : Position} {ts us : List Token}

theorem of_atOrBefore (hpq : p.AtOrBefore q) (h : Ascends q ts r) : Ascends p ts r := by
  cases h with
  | nil hqr => exact .nil (hpq.trans hqr)
  | cons ht h => exact .cons (hpq.trans ht) h

theorem append (hts : Ascends p ts q) (hus : Ascends q us r) : Ascends p (ts ++ us) r := by
  induction hts with
  | nil hpq => exact hus.of_atOrBefore hpq
  | cons ht _ ih => exact .cons ht (ih hus)

theorem atOrBefore_of_mem (h : Ascends p ts q) : ∀ t ∈ ts, p.AtOrBefore t.position := by
  induction h with
  | nil => nofun
  | cons ht _ ih => exact List.forall_mem_cons.mpr ⟨ht, fun u hu => ht.trans (ih u hu)⟩

theorem pairwise (h : Ascends p ts q) :
    ts.Pairwise fun t u => t.position.AtOrBefore u.position := by
  induction h with
  | nil => exact .nil
  | cons _ h ih => exact .cons h.atOrBefore_of_mem ih

end Ascends

/-! ## Cursors going forward -/

namespace Cursor

/-- The second cursor is the first one moved forward. -/
def Reaches (c d : Cursor) : Prop := ∃ n, d = c.forward n

/-- The cursor stands in a text: ahead lies what follows its offset, and its line and column count
what comes before. -/
structure StandsIn (text : String) (c : Cursor) : Prop where
  offset_le : c.offset ≤ text.length
  rest_eq : c.rest = text.toList.drop c.offset
  line_eq : c.position.line = (text.toList.take c.offset).count '\n' + 1
  column_eq : c.position.column =
    ((text.toList.take c.offset).reverse.takeWhile (· ≠ '\n')).length + 1

theorem advance_eq_or (c : Cursor) : c.advance = c ∨
    ∃ x r, c.rest = x :: r ∧ c.advance = ⟨r, c.offset + 1, c.position.step x⟩ := by
  unfold advance
  split
  · exact .inl rfl
  · next x r h => exact .inr ⟨x, r, h, rfl⟩

namespace Reaches

variable {c d e : Cursor}

theorem refl : c.Reaches c := ⟨0, rfl⟩

theorem forward (n : Nat) : c.Reaches (c.forward n) := ⟨n, rfl⟩

theorem trans (hcd : c.Reaches d) (hde : d.Reaches e) : c.Reaches e := by
  obtain ⟨m, rfl⟩ := hcd
  obtain ⟨n, rfl⟩ := hde
  exact ⟨m + n, (forward_add m n c).symm⟩

/-- What every character keeps is kept on the way. -/
theorem of_advance (h : c.Reaches d) (good : Cursor → Prop)
    (hadvance : ∀ c, good c → good c.advance) (hc : good c) : good d := by
  obtain ⟨n, rfl⟩ := h
  induction n generalizing c with
  | zero => exact hc
  | succ n ih => exact ih (hadvance c hc)

theorem offset_le (h : c.Reaches d) : c.offset ≤ d.offset := by
  refine h.of_advance (c.offset ≤ ·.offset) (fun c' hle => ?_) (Nat.le_refl _)
  obtain heq | ⟨x, r, -, heq⟩ := c'.advance_eq_or
  · rwa [heq]
  · rw [heq]
    exact Nat.le_succ_of_le hle

theorem atOrBefore (h : c.Reaches d) : c.position.AtOrBefore d.position := by
  refine h.of_advance (c.position.AtOrBefore ·.position) (fun c' hbefore => ?_) .refl
  obtain heq | ⟨x, r, -, heq⟩ := c'.advance_eq_or
  · rwa [heq]
  · rw [heq]
    exact hbefore.trans (.step x)

end Reaches

theorem standsIn_between {text : String} {before rest : List Char}
    (h : text.toList = before ++ rest) : (between before rest).StandsIn text := by
  have hlength : text.length = before.length + rest.length := by
    rw [← String.length_toList, h, List.length_append]
  refine ⟨hlength ▸ Nat.le_add_right _ _, ?_, ?_, ?_⟩
  · rw [h, between, List.drop_left]
  · rw [h, between, List.take_left, Position.after]
  · rw [h, between, List.take_left, Position.after]

/-- A cursor that moves over a text stays in it. -/
theorem Reaches.exists_between {cs : List Char} {c d : Cursor} (h : c.Reaches d)
    (hc : ∃ before rest, cs = before ++ rest ∧ c = between before rest) :
    ∃ before rest, cs = before ++ rest ∧ d = between before rest := by
  refine h.of_advance (fun c => ∃ before rest, cs = before ++ rest ∧ c = between before rest) ?_ hc
  rintro _ ⟨before, rest, rfl, rfl⟩
  cases rest with
  | nil => exact ⟨before, [], rfl, rfl⟩
  | cons x r => exact ⟨before ++ [x], r, by simp, advance_between before r x⟩

/-- Tokens are read forward, and each stands where the cursor was before it. -/
theorem reads_forward (c : Cursor) : c.Reaches c.tokens.cursor ∧
    Ascends c.position c.tokens.tokens c.tokens.cursor.position := by
  fun_induction Cursor.tokens c with
  | case1 c next e hfault =>
    have hnext : c.Reaches next := .forward _
    exact ⟨hnext, .nil hnext.atOrBefore⟩
  | case2 c next htrivia hend =>
    have hnext : c.Reaches next := .forward _
    exact ⟨hnext, .cons hnext.atOrBefore (.nil .refl)⟩
  | case3 c next htrivia x r hrest after e hfault =>
    have hafter : c.Reaches after := .trans (.forward _) (.forward _)
    exact ⟨hafter, .nil hafter.atOrBefore⟩
  | case4 c next htrivia x r hrest after kind value hscan run ih =>
    have hnext : c.Reaches next := .forward _
    have hafter : next.Reaches after := .forward _
    exact ⟨(hnext.trans hafter).trans ih.1,
      .cons hnext.atOrBefore (ih.2.of_atOrBefore hafter.atOrBefore)⟩

end Cursor

/-! ## Calls -/

namespace TextReader

structure ReadsOn (r s : TextReader) : Prop where
  reaches : r.cursor.Reaches s.cursor
  added : ∃ ts, s.tokens = r.tokens ++ ts ∧ Ascends r.cursor.position ts s.cursor.position

variable {r s : TextReader}

theorem readsOn_cursor {d : Cursor} (h : r.cursor.Reaches d) : r.ReadsOn { r with cursor := d } :=
  ⟨h, [], (List.append_nil _).symm, .nil h.atOrBefore⟩

theorem readsOn_scan {α : Type} (r : TextReader) (scan : List Char → Scan α) (reply : α → Reply) :
    r.ReadsOn (r.scan scan reply).2 :=
  readsOn_cursor (.forward _)

theorem readsOn_call (r : TextReader) (call : Call) : r.ReadsOn (r.call call).2 := by
  cases call with
  | advance => exact readsOn_cursor (.forward 1)
  | trivia => exact r.readsOn_scan _ _
  | string => exact r.readsOn_scan _ _
  | codePoint place => exact r.readsOn_scan codePoint .codePoint
  | number => exact r.readsOn_scan _ _
  | identifier => exact r.readsOn_scan _ _
  | tokens =>
    obtain ⟨hreaches, hascends⟩ := r.cursor.reads_forward
    exact ⟨hreaches, _, rfl, hascends⟩

/-- The reader stands between characters of a text, with its tokens behind it in order. -/
structure InOrder (text : String) (r : TextReader) : Prop where
  between : ∃ before rest, text.toList = before ++ rest ∧ r.cursor = .between before rest
  ascends : Ascends Position.start r.tokens r.cursor.position

theorem inOrder_start (text : String) : (start text).InOrder text :=
  ⟨⟨[], text.toList, rfl, rfl⟩, .nil .refl⟩

theorem InOrder.readsOn {text : String} (h : r.InOrder text) (hs : r.ReadsOn s) :
    s.InOrder text := by
  obtain ⟨ts, htokens, hascends⟩ := hs.added
  exact ⟨hs.reaches.exists_between h.between, htokens ▸ h.ascends.append hascends⟩

theorem InOrder.after {text : String} (h : r.InOrder text) (calls : List Call) :
    (r.after calls).InOrder text := by
  induction calls generalizing r with
  | nil => exact h
  | cons call calls ih => exact ih (h.readsOn (r.readsOn_call call))

/-- After any calls on a reader of a text and one call more, the reader stands in the text, not
before where it stood, and has its tokens still, with those added that lie behind them. -/
theorem calls_keep_place (text : String) (calls : List Call) (call : Call) :
    let before := (start text).after calls
    let after := (before.call call).2
    after.cursor.StandsIn text ∧ before.cursor.offset ≤ after.cursor.offset ∧
      before.tokens <+: after.tokens ∧
      after.tokens.Pairwise fun t u => t.position.AtOrBefore u.position := by
  intro before after
  have hcall : before.ReadsOn after := before.readsOn_call call
  have hafter : after.InOrder text := ((inOrder_start text).after calls).readsOn hcall
  obtain ⟨cs, rest, htext, hcursor⟩ := hafter.between
  obtain ⟨ts, htokens, -⟩ := hcall.added
  exact ⟨hcursor ▸ Cursor.standsIn_between htext, hcall.reaches.offset_le, ⟨ts, htokens.symm⟩,
    hafter.ascends.pairwise⟩

end TextReader

end SchemaGrammar.Source
