import SchemaGrammar.Proofs.Source.Spelling

/-!
# Reading types from lexemes

`Reads` says what a part gives and which lexemes are left after it, whatever the places of the
tokens. A canonical type is read back from its lexemes if what follows cannot belong to a type.
-/
namespace SchemaGrammar.Source

/-- Reading a part succeeds with a value that is good, and leaves tokens of the lexemes. -/
def Reads {α : Type} {n : Nat} (p : Part α n) (good : α → Prop) (ls : List Lexeme) : Prop :=
  ∃ a rest h, p = .read a rest h ∧ good a ∧ rest.map Token.lexeme = ls

namespace Reads

variable {α β : Type} {m n : Nat} {good : α → Prop} {good' : β → Prop} {ls ks : List Lexeme}

theorem read {a : α} {rest : List Token} {h : rest.length ≤ n} (ha : good a)
    (hrest : rest.map Token.lexeme = ls) : Reads (.read a rest h) good ls :=
  ⟨a, rest, h, rfl, ha, hrest⟩

theorem andThen {p : Part α m} {next : α → (ts : List Token) → ts.length ≤ m → Part β n}
    (hp : Reads p good ls)
    (hnext : ∀ a rest h, good a → rest.map Token.lexeme = ls → Reads (next a rest h) good' ks) :
    Reads (p.andThen next) good' ks := by
  obtain ⟨a, rest, h, rfl, ha, hrest⟩ := hp
  exact hnext a rest h ha hrest

theorem weaken {p : Part α m} (hp : Reads p good ls) (h : m ≤ n) : Reads (p.weaken h) good ls :=
  hp.andThen fun _ _ _ ha hrest => read ha hrest

theorem map {f : α → β} {p : Part α m} (hp : Reads p good ls) (hf : ∀ a, good a → good' (f a)) :
    Reads (p.map f) good' ls :=
  hp.andThen fun a _ _ ha hrest => read (hf a ha) hrest

end Reads

/-! ## Single tokens -/

def leadKind : List Lexeme → TokenKind
  | [] => .endMark
  | l :: _ => l.1

theorem headKind_eq_leadKind (ts : List Token) : headKind ts = leadKind (ts.map Token.lexeme) := by
  cases ts <;> rfl

variable {ts : List Token} {ls : List Lexeme}

/-- Tokens do not begin with a kind that their lexemes do not begin with. -/
theorem headKind_ne {kind : TokenKind} (h : ts.map Token.lexeme = ls) (hls : leadKind ls ≠ kind) :
    headKind ts ≠ kind := by
  rwa [headKind_eq_leadKind, h]

theorem exists_token {l : Lexeme} (h : ts.map Token.lexeme = l :: ls) :
    ∃ t r, ts = t :: r ∧ t.kind = l.1 ∧ t.value = l.2 ∧ r.map Token.lexeme = ls := by
  obtain ⟨t, r, rfl, ht, hr⟩ := List.map_eq_cons_iff.mp h
  exact ⟨t, r, rfl, congrArg Prod.fst ht, congrArg Prod.snd ht, hr⟩

theorem exists_mark {m : Mark} (h : ts.map Token.lexeme = .mark m :: ls) :
    ∃ t r, ts = t :: r ∧ t.kind = .mark m ∧ r.map Token.lexeme = ls := by
  obtain ⟨t, r, hts, hkind, -, hr⟩ := exists_token h
  exact ⟨t, r, hts, hkind, hr⟩

theorem exists_word {name : String} (h : ts.map Token.lexeme = .word name :: ls) :
    ∃ t r, ts = t :: r ∧ t.kind = wordKind name ∧ t.value = name ∧ r.map Token.lexeme = ls :=
  exists_token h

theorem exists_text {value : String} (h : ts.map Token.lexeme = .text value :: ls) :
    ∃ t r, ts = t :: r ∧ t.kind = .string ∧ t.value = value ∧ r.map Token.lexeme = ls :=
  exists_token h

theorem reads_takeMark {m : Mark} (h : ts.map Token.lexeme = .mark m :: ls) :
    Reads (takeKind (.mark m) ts) (fun _ => True) ls := by
  obtain ⟨t, r, rfl, hkind, hr⟩ := exists_mark h
  rw [takeKind, if_pos hkind]
  exact .read trivial hr

theorem reads_takeKeyword {name : String} {kind : TokenKind} (hkind : wordKind name = kind)
    (h : ts.map Token.lexeme = .word name :: ls) : Reads (takeKind kind ts) (fun _ => True) ls := by
  obtain ⟨t, r, rfl, ht, -, hr⟩ := exists_word h
  rw [takeKind, if_pos (ht.trans hkind)]
  exact .read trivial hr

theorem reads_takeName {name : String} (h : ts.map Token.lexeme = .word name :: ls) :
    Reads (takeName ts) (·.value = name) ls := by
  obtain ⟨t, r, rfl, hkind, hvalue, hr⟩ := exists_word h
  rw [takeName, if_pos (by rw [hkind]; exact isName_wordKind name)]
  exact .read hvalue hr

theorem reads_takeMemberName {name : String} (h : ts.map Token.lexeme = .text name :: ls) :
    Reads (takeMemberName ts) (·.value = name) ls := by
  obtain ⟨t, r, rfl, hkind, hvalue, hr⟩ := exists_text h
  rw [takeMemberName, if_pos hkind]
  exact .read hvalue hr

/-! ## Types -/

/-- A kind of token that cannot belong to an atom before it. -/
def EndsAtom (kind : TokenKind) : Prop :=
  kind ≠ .mark .dot ∧ kind ≠ .mark .openAngle ∧ kind ≠ .mark .openBracket

def EndsType (kind : TokenKind) : Prop :=
  EndsAtom kind ∧ kind ≠ .mark .bar ∧ kind ≠ .mark .ampersand

theorem leadKind_mark_ne {m n : Mark} (h : m ≠ n) (ks : List Lexeme) :
    leadKind (.mark m :: ks) ≠ .mark n :=
  fun heq => h (TokenKind.mark.inj heq)

/-- What follows the types of a schema. -/
theorem endsType_mark {m : Mark} (h : m = .semicolon ∨ m = .comma ∨ m = .closeAngle)
    (ks : List Lexeme) : EndsType (leadKind (.mark m :: ks)) := by
  have hne (n : Mark) (hn : m ≠ n) := leadKind_mark_ne hn ks
  obtain rfl | rfl | rfl := h <;>
    exact ⟨⟨hne _ (by decide), hne _ (by decide), hne _ (by decide)⟩, hne _ (by decide),
      hne _ (by decide)⟩

theorem reads_dottedNames {path : List Word} {spelling : String}
    (h : ts.map Token.lexeme = pathLexemes path ++ ls) (hend : leadKind ls ≠ .mark .dot) :
    Reads (dottedNames spelling ts)
      (· = spelling ++ String.join (path.map ("." ++ ·.text))) ls := by
  induction path generalizing ts spelling with
  | nil =>
    rw [pathLexemes, List.flatMap_nil, List.nil_append] at h
    cases ts with
    | nil =>
      rw [dottedNames]
      exact .read (by simp) h
    | cons t r =>
      have hkind : t.kind ≠ .mark .dot := headKind_ne h hend
      rw [dottedNames, if_neg hkind]
      exact .read (by simp) h
  | cons name path ih =>
    rw [pathLexemes, List.flatMap_cons, List.append_assoc] at h
    obtain ⟨t, r, rfl, hkind, hr⟩ := exists_mark h
    rw [dottedNames, if_pos hkind]
    refine (reads_takeName hr).andThen fun token r₁ h₁ hname hr₁ => Reads.weaken ?_ _
    rw [hname, List.map_cons, String.join_cons, ← String.append_assoc, ← String.append_assoc]
    exact ih hr₁

theorem reads_arrayMarks {brackets : Nat} {spelling : String}
    (h : ts.map Token.lexeme = bracketLexemes brackets ++ ls)
    (hend : leadKind ls ≠ .mark .openBracket) :
    Reads (arrayMarks spelling ts)
      (· = spelling ++ String.join (List.replicate brackets "[]")) ls := by
  induction brackets generalizing ts spelling with
  | zero =>
    rw [bracketLexemes, List.nil_append] at h
    cases ts with
    | nil =>
      rw [arrayMarks]
      exact .read (by simp) h
    | cons t r =>
      have hkind : t.kind ≠ .mark .openBracket := headKind_ne h hend
      rw [arrayMarks, if_neg hkind]
      exact .read (by simp) h
  | succ brackets ih =>
    rw [bracketLexemes, List.cons_append, List.cons_append] at h
    obtain ⟨t, r, rfl, hkind, hr⟩ := exists_mark h
    rw [arrayMarks, if_pos hkind]
    refine (reads_takeMark hr).andThen fun token r₁ h₁ _ hr₁ => Reads.weaken ?_ _
    rw [List.replicate_succ, String.join_cons, ← String.append_assoc]
    exact ih hr₁

/-- No atom of canonical form begins with a token that is refused. -/
theorem refusedType?_wordKind (owner name : String) :
    refusedType? owner (wordKind name) = none := by
  unfold wordKind
  split <;> rfl

theorem leadKind_bracketLexemes {kind : TokenKind} (hkind : kind ≠ .mark .openBracket)
    {brackets : Nat} (h : leadKind ls ≠ kind) :
    leadKind (bracketLexemes brackets ++ ls) ≠ kind := by
  cases brackets with
  | zero => exact h
  | succ brackets => exact hkind.symm

theorem leadKind_argumentLexemes {kind : TokenKind} (hkind : kind ≠ .mark .openAngle)
    {arguments : List (List Lexeme)} (h : leadKind ls ≠ kind) :
    leadKind (argumentLexemes arguments ++ ls) ≠ kind := by
  cases arguments with
  | nil => exact h
  | cons argument arguments => exact hkind.symm

theorem TypeAtom.exists_lexemes (a : TypeAtom) :
    ∃ name ks, a.lexemes = .word name :: ks := by
  cases a with
  | mk head path arguments brackets => exact ⟨head.text, _, by rw [lexemes]⟩

/-- Nothing is skipped in front of an atom. -/
theorem skipBar_of_atom {a : TypeAtom} (h : ts.map Token.lexeme = a.lexemes ++ ls) :
    skipBar ts = ts := by
  obtain ⟨name, ks, hks⟩ := a.exists_lexemes
  rw [hks, List.cons_append] at h
  obtain ⟨t, r, rfl, hkind, -, -⟩ := exists_word h
  have hbar : wordKind name ≠ .mark .bar := wordKind_ne name rfl
  rw [skipBar, if_neg (by rwa [hkind])]

theorem endsAtom_bars {lss : List (List Lexeme)} (h : EndsAtom (leadKind ls)) :
    EndsAtom (leadKind (lss.flatMap (.mark .bar :: ·) ++ ls)) := by
  cases lss with
  | nil => exact h
  | cons ks lss =>
    exact ⟨leadKind_mark_ne (by decide) _, leadKind_mark_ne (by decide) _,
      leadKind_mark_ne (by decide) _⟩

theorem endsType_commas {lss : List (List Lexeme)} (h : EndsType (leadKind ls)) :
    EndsType (leadKind (lss.flatMap (.mark .comma :: ·) ++ ls)) := by
  cases lss with
  | nil => exact h
  | cons ks lss => exact endsType_mark (.inr (.inl rfl)) _

mutual

theorem TypeAtom.reads (owner : String) : ∀ (a : TypeAtom) {ts : List Token} {ls : List Lexeme},
    ts.map Token.lexeme = a.lexemes ++ ls → EndsAtom (leadKind ls) →
      Reads (typeAtom owner ts) (· = a.text) ls
  | .mk head path arguments brackets, ts, ls, h, ⟨hdot, hangle, hbracket⟩ => by
    rw [TypeAtom.lexemes, List.cons_append, List.append_assoc, List.append_assoc] at h
    have hrefused : refusedType? owner (headKind ts) = none := by
      rw [headKind_eq_leadKind, h]
      exact refusedType?_wordKind owner head.text
    rw [typeAtom, hrefused]
    refine (reads_takeName h).andThen fun token r₁ h₁ hhead hr₁ => ?_
    -- no part of the atom, be it empty or not, can be taken for one more piece of that before it
    have hdot' : leadKind (argumentLexemes (TypeUnion.lexemesOf arguments) ++
        (bracketLexemes brackets ++ ls)) ≠ .mark .dot :=
      leadKind_argumentLexemes (by decide) (leadKind_bracketLexemes (by decide) hdot)
    refine (reads_dottedNames hr₁ hdot').andThen fun spelling r₂ h₂ hpath hr₂ => ?_
    have hangle' : leadKind (bracketLexemes brackets ++ ls) ≠ .mark .openAngle :=
      leadKind_bracketLexemes (by decide) hangle
    refine (TypeUnion.reads_typeArguments owner arguments hr₂ hangle').andThen
      fun spelling' r₃ h₃ harguments hr₃ => Reads.weaken ?_ _
    rw [TypeAtom.text, ← hhead, ← hpath, ← harguments]
    exact reads_arrayMarks hr₃ hbracket

theorem TypeUnion.reads (owner : String) : ∀ (u : TypeUnion) {ts : List Token} {ls : List Lexeme},
    ts.map Token.lexeme = u.lexemes ++ ls → EndsType (leadKind ls) →
      Reads (typeExpr owner ts) (· = u.typeExpr) ls
  | .mk first others, ts, ls, h, hend => by
    rw [TypeUnion.lexemes, List.append_assoc] at h
    rw [← skipBar_of_atom h] at h
    rw [typeExpr]
    refine (TypeAtom.reads owner first h (endsAtom_bars hend.1)).andThen
      fun spelling r₁ h₁ hfirst hr₁ => ?_
    refine (TypeAtom.reads_alternatives owner others hr₁ hend).andThen
      fun spellings r₂ h₂ hothers hr₂ => ?_
    have hampersand : headKind r₂ ≠ .mark .ampersand := headKind_ne hr₂ hend.2.2
    rw [if_neg hampersand]
    exact .read (by rw [hfirst, hothers, TypeUnion.typeExpr]) hr₂

theorem TypeAtom.reads_alternatives (owner : String) : ∀ (as : List TypeAtom) {ts : List Token}
    {ls : List Lexeme},
    ts.map Token.lexeme = (TypeAtom.lexemesOf as).flatMap (.mark .bar :: ·) ++ ls →
      EndsType (leadKind ls) → Reads (alternatives owner ts) (· = TypeAtom.texts as) ls
  | [], [], ls, h, _ => by
    rw [alternatives]
    exact .read rfl h
  | [], t :: r, ls, h, hend => by
    have hkind : t.kind ≠ .mark .bar := headKind_ne h hend.2.1
    rw [alternatives, if_neg hkind]
    exact .read rfl h
  | a :: as, ts, ls, h, hend => by
    rw [TypeAtom.lexemesOf, List.flatMap_cons, List.append_assoc, List.cons_append] at h
    obtain ⟨t, r, rfl, hkind, hr⟩ := exists_mark h
    rw [alternatives, if_pos hkind]
    refine (TypeAtom.reads owner a hr (endsAtom_bars hend.1)).andThen
      fun spelling r₁ h₁ ha hr₁ => ?_
    refine (TypeAtom.reads_alternatives owner as hr₁ hend).andThen
      fun spellings r₂ h₂ has hr₂ => ?_
    exact .read (by rw [ha, has, TypeAtom.texts]) hr₂

theorem TypeUnion.reads_typeArguments (owner : String) : ∀ (us : List TypeUnion)
    {spelling : String} {ts : List Token} {ls : List Lexeme},
    ts.map Token.lexeme = argumentLexemes (TypeUnion.lexemesOf us) ++ ls →
      leadKind ls ≠ .mark .openAngle → Reads (typeArguments owner spelling ts)
        (· = spelling ++ argumentsText (TypeUnion.texts us)) ls
  | [], spelling, [], ls, h, _ => by
    rw [typeArguments]
    exact .read String.append_empty.symm h
  | [], spelling, t :: r, ls, h, hend => by
    have hkind : t.kind ≠ .mark .openAngle := headKind_ne h hend
    rw [typeArguments, if_neg hkind]
    exact .read String.append_empty.symm h
  | u :: us, spelling, ts, ls, h, hend => by
    simp only [TypeUnion.lexemesOf, argumentLexemes, List.cons_append, List.append_assoc,
      List.nil_append] at h
    obtain ⟨t, r, rfl, hkind, hr⟩ := exists_mark h
    have hclose := endsType_mark (.inr (.inr rfl)) ls
    have hcomma := leadKind_mark_ne (m := .closeAngle) (n := .comma) (by decide) ls
    rw [typeArguments, if_pos hkind]
    refine (TypeUnion.reads owner u hr (endsType_commas hclose)).andThen
      fun type r₁ h₁ hu hr₁ => ?_
    refine (TypeUnion.reads_moreArguments owner us hr₁ hclose hcomma).andThen
      fun types r₂ h₂ hus hr₂ => ?_
    refine (reads_takeMark hr₂).andThen fun _ r₃ h₃ _ hr₃ => .read ?_ hr₃
    rw [hu, hus, TypeUnion.text_typeExpr, TypeUnion.texts, argumentsText, String.append_assoc,
      String.append_assoc, String.append_assoc]

theorem TypeUnion.reads_moreArguments (owner : String) : ∀ (us : List TypeUnion)
    {ts : List Token} {ls : List Lexeme},
    ts.map Token.lexeme = (TypeUnion.lexemesOf us).flatMap (.mark .comma :: ·) ++ ls →
      EndsType (leadKind ls) → leadKind ls ≠ .mark .comma →
      Reads (moreArguments owner ts) (· = TypeUnion.texts us) ls
  | [], [], ls, h, _, _ => by
    rw [moreArguments]
    exact .read rfl h
  | [], t :: r, ls, h, _, hcomma => by
    have hkind : t.kind ≠ .mark .comma := headKind_ne h hcomma
    rw [moreArguments, if_neg hkind]
    exact .read rfl h
  | u :: us, ts, ls, h, hend, hcomma => by
    rw [TypeUnion.lexemesOf, List.flatMap_cons, List.append_assoc, List.cons_append] at h
    obtain ⟨t, r, rfl, hkind, hr⟩ := exists_mark h
    rw [moreArguments, if_pos hkind]
    refine (TypeUnion.reads owner u hr (endsType_commas hend)).andThen
      fun type r₁ h₁ hu hr₁ => ?_
    refine (TypeUnion.reads_moreArguments owner us hr₁ hend hcomma).andThen
      fun types r₂ h₂ hus hr₂ => ?_
    exact .read (by rw [hu, hus, TypeUnion.text_typeExpr, TypeUnion.texts]) hr₂

end

end SchemaGrammar.Source
