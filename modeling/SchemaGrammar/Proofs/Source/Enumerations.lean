import SchemaGrammar.Proofs.Source.Parsing

/-!
# Written enumerations are read back

Members are separated by commas, the last one is not followed by any; a value is one string token
before the comma or the closing brace, so it is read as a value and not as an initializer.
-/
namespace SchemaGrammar

open Source

namespace Member

def lexemes (m : Member) : List Lexeme :=
  .text m.name ::
    match m.value with
    | some value => [.mark .equals, .text value]
    | none => []

theorem writes (m : Member) : Writes m.source.toList m.lexemes := by
  rw [source, lexemes, String.toList_append, Text.toList_quoted]
  cases m.value with
  | none => exact Writes.nil.quoted_append m.name
  | some value =>
    have hvalue := (Writes.nil.quoted_append value).space_append.mark_append .equals
    rw [List.append_nil] at hvalue
    simp only [String.toList_append, Text.toList_quoted]
    exact hvalue.space_append.quoted_append m.name

def Ends (kind : TokenKind) : Prop := kind = .mark .comma ∨ kind = .mark .closeBrace

variable {m : Member} {ts : List Token} {ks : List Lexeme}

theorem loneString?_of_text {value : String} (hts : ts.map Token.lexeme = .text value :: ks)
    (hend : Ends (leadKind ks)) :
    ∃ r, loneString? ts = some (value, r) ∧ r.map Token.lexeme = ks := by
  obtain ⟨t, r, rfl, hkind, rfl, hr⟩ := exists_text hts
  refine ⟨r, ?_, hr⟩
  rw [loneString?, headKind_eq_leadKind, hr]
  obtain h | h := hend <;> simp [hkind, h]

theorem reads_value
    (hts : ts.map Token.lexeme =
      (match m.value with
        | some value => [Lexeme.mark .equals, .text value]
        | none => []) ++ ks)
    (hend : Ends (leadKind ks)) : Reads (memberValue ts) (· = (m.value, none)) ks := by
  cases hvalue : m.value with
  | none =>
    rw [hvalue, List.nil_append] at hts
    cases ts with
    | nil => exact .read rfl hts
    | cons t r =>
      have hkind : t.kind ≠ .mark .equals := by
        refine headKind_ne hts ?_
        obtain h | h := hend <;> simp [h]
      rw [memberValue, if_neg hkind]
      exact .read rfl hts
  | some value =>
    rw [hvalue] at hts
    obtain ⟨t, r, rfl, hkind, hr⟩ := exists_mark hts
    obtain ⟨r', hlone, hr'⟩ := loneString?_of_text hr hend
    rw [memberValue, if_pos hkind]
    split
    · next heq =>
      cases hlone.symm.trans heq
      exact .read rfl hr'
    · next heq => cases hlone.symm.trans heq

end Member

namespace Enumeration

def memberLexemes : List Member → List Lexeme
  | [] => []
  | m :: ms => m.lexemes ++ (ms.map Member.lexemes).flatMap (.mark .comma :: ·)

def lexemes (e : Enumeration) : List Lexeme :=
  .word "enum" :: .word e.name :: .mark .openBrace :: (memberLexemes e.members ++
    [.mark .closeBrace])

theorem writes_members (ms : List Member) :
    Writes (", ".intercalate (ms.map Member.source)).toList (memberLexemes ms) := by
  cases ms with
  | nil => exact .nil
  | cons m ms =>
    obtain ⟨hms, hstops⟩ := writes_commas fun m (_ : m ∈ ms) => m.writes
    rw [List.map_cons, toList_intercalate_cons, memberLexemes]
    exact m.writes.append hms hstops

theorem writes {e : Enumeration} (he : e.Writable) : Writes e.source.toList e.lexemes := by
  have hclose : Writes " \x7d".toList [.mark .closeBrace] :=
    (Writes.nil.mark_append .closeBrace).space_append
  have hmembers := (writes_members e.members).append hclose (stops_space _)
  have hbody := (hmembers.space_append.mark_append .openBrace).space_append
  have hname := (Writes.word ⟨e.name, he.name⟩).append hbody (stops_space _)
  have hkeyword := (Writes.word Word.enum).append hname.space_append (stops_space _)
  simp only [source, String.toList_append, List.append_assoc]
  exact hkeyword

/-- The members after one, and what is left of the commas between them. -/
theorem reads_members {ms : List Member} (hms : ∀ m ∈ ms, m.initializer = none) (name : String)
    {ts : List Token} {ks : List Lexeme}
    (hts : ts.map Token.lexeme = memberLexemes ms ++ .mark .closeBrace :: ks) :
    Reads (Source.members name ts) (· = ms) (.mark .closeBrace :: ks) := by
  induction ms generalizing ts with
  | nil =>
    obtain ⟨t, r, rfl, hkind, -⟩ := exists_mark hts
    rw [Source.members, if_pos hkind]
    exact .read rfl hts
  | cons m ms ih =>
    rw [List.forall_mem_cons] at hms
    rw [memberLexemes, Member.lexemes, List.append_assoc, List.cons_append] at hts
    obtain ⟨t, r, rfl, hkind, -, -⟩ := exists_text hts
    have hbrace : t.kind ≠ .mark .closeBrace := by
      rw [hkind]
      intro heq
      cases heq
    rw [Source.members, if_neg hbrace]
    refine (reads_takeMemberName hts).andThen fun token r₁ h₁ hname hr₁ => ?_
    have hend : Member.Ends (leadKind ((ms.map Member.lexemes).flatMap (.mark .comma :: ·) ++
        .mark .closeBrace :: ks)) := by
      cases ms with
      | nil => exact .inr rfl
      | cons m' ms => exact .inl rfl
    refine (Member.reads_value hr₁ hend).andThen fun value r₂ h₂ hvalue hr₂ => ?_
    -- the comma belongs to the member before it, hence the same lexemes are left in both cases
    have hmemberEnd : Reads (memberEnd r₂) (fun _ => True)
        (memberLexemes ms ++ .mark .closeBrace :: ks) := by
      cases ms with
      | nil =>
        have hhead : headKind r₂ = .mark .closeBrace := by
          rw [headKind_eq_leadKind, hr₂]
          rfl
        rw [memberEnd, if_pos hhead]
        exact .read trivial hr₂
      | cons m' ms =>
        have hhead : headKind r₂ ≠ .mark .closeBrace :=
          headKind_ne hr₂ (leadKind_mark_ne (by decide) _)
        rw [memberEnd, if_neg hhead]
        exact ((reads_takeMark hr₂).map fun _ _ => trivial).weaken _
    refine hmemberEnd.andThen fun _ r₃ h₃ _ hr₃ => ?_
    refine (ih hms.2 hr₃).andThen fun ms' r₄ h₄ hms' hr₄ => .read ?_ hr₄
    cases hvalue
    rw [hname, hms', ← hms.1]

theorem reads {e : Enumeration} (he : e.Writable) (file : Path) (start : Position)
    {ts : List Token} {ks : List Lexeme} (hts : ts.map Token.lexeme = e.lexemes ++ ks) :
    Reads (enumeration file start ts) (·.unlocated = e.unlocated) ks := by
  simp only [lexemes, List.cons_append, List.append_assoc, List.nil_append] at hts
  rw [enumeration]
  refine (reads_takeKeyword rfl hts).andThen fun _ r₁ h₁ _ hr₁ => ?_
  refine (reads_takeName hr₁).andThen fun name r₂ h₂ hname hr₂ => ?_
  refine (reads_takeMark hr₂).andThen fun _ r₃ h₃ _ hr₃ => ?_
  refine (reads_members he.initializer _ hr₃).andThen fun ms r₄ h₄ hms hr₄ => ?_
  refine (reads_takeMark hr₄).andThen fun _ r₅ h₅ _ hr₅ => .read ?_ hr₅
  rw [unlocated, unlocated, hname, hms]

end Enumeration

end SchemaGrammar
