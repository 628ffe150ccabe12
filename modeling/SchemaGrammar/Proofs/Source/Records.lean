import SchemaGrammar.Proofs.RelatedLists
import SchemaGrammar.Proofs.Source.Parsing

/-!
# Written records are read back

What a writable record spells is a list of lexemes from which the record is read back, but for the
places of the record and its properties.
-/
namespace SchemaGrammar

open Source

/-! ## Properties -/

theorem exists_typeExpr {t : TypeExpr}
    (h : ∀ spelling ∈ t.spellings, ∃ a : TypeAtom, a.text = spelling) :
    ∃ u : TypeUnion, u.typeExpr = t := by
  obtain ⟨first, others⟩ := t
  rw [TypeExpr.spellings, List.forall_mem_cons] at h
  obtain ⟨⟨a, rfl⟩, hothers⟩ := h
  obtain ⟨as, has⟩ := exists_forall₂ hothers
  have hmap : as.map TypeAtom.text = others := by
    rw [← List.forall₂_eq_eq_eq, List.forall₂_map_left_iff]
    exact has.flip
  exact ⟨.mk a as, by rw [TypeUnion.typeExpr, TypeAtom.texts_eq_map, hmap]⟩

namespace Property

def HasLexemes (p : Property) (ls : List Lexeme) : Prop :=
  ∃ u : TypeUnion, u.typeExpr = p.type ∧
    ls = .text p.name :: .mark .colon :: (u.lexemes ++ [.mark .semicolon])

variable {p : Property} {ls : List Lexeme}

theorem writes (h : p.HasLexemes ls) : Writes p.source.toList ls := by
  obtain ⟨u, hu, rfl⟩ := h
  have hend : Writes "; ".toList [.mark .semicolon] :=
    Writes.nil.space_append.mark_append .semicolon
  have htype := u.writes.append hend (stops_mark .semicolon _)
  simp only [source, String.toList_append, Text.toList_quoted, List.append_assoc, ← hu,
    TypeUnion.text_typeExpr]
  exact (htype.space_append.mark_append .colon).quoted_append p.name

theorem stops_source : Stops p.source.toList := by
  simp only [source, String.toList_append, Text.toList_quoted, Text.quote]
  rintro c ⟨⟩
  rfl

/-- A quoted name is not taken for the word `readonly`. -/
theorem skipReadonly_of_text {ts : List Token} {name : String}
    (h : ts.map Token.lexeme = .text name :: ls) : skipReadonly ts = ts := by
  obtain ⟨t, r, rfl, hkind, -, -⟩ := exists_text h
  simp [skipReadonly, hkind]

theorem reads (h : p.HasLexemes ls) (file : Path) (record : String) {ts : List Token}
    {ks : List Lexeme} (hts : ts.map Token.lexeme = ls ++ ks) :
    Reads (property file record ts) (·.unlocated = p.unlocated) (.mark .semicolon :: ks) := by
  obtain ⟨u, hu, rfl⟩ := h
  simp only [List.cons_append, List.append_assoc, List.nil_append] at hts
  rw [← skipReadonly_of_text hts] at hts
  have hbracket : headKind (skipReadonly ts) ≠ .mark .openBracket := by
    refine headKind_ne hts ?_
    intro heq
    cases heq
  rw [property, if_neg hbracket]
  refine (reads_takeMemberName hts).andThen fun name r₁ h₁ hname hr₁ => ?_
  obtain ⟨t, r, rfl, hkind, hr⟩ := exists_mark hr₁
  have hrefused : refusedProperty? (record ++ "." ++ name.value) (headKind (t :: r)) = none := by
    rw [headKind, hkind]
    rfl
  dsimp only
  rw [hrefused]
  refine (u.reads _ hr (endsType_mark (.inl rfl) ks)).andThen fun type r₂ h₂ htype hr₂ => ?_
  exact .read (by rw [unlocated, unlocated, hname, htype, hu]) hr₂

/-! ### Lists of properties -/

variable {ps : List Property} {lss : List (List Lexeme)}

theorem writes_flatten (h : List.Forall₂ HasLexemes ps lss) :
    Writes (String.join (ps.map source)).toList lss.flatten ∧
      Stops (String.join (ps.map source)).toList := by
  induction h with
  | nil => exact ⟨.nil, stops_nil⟩
  | cons hp _ ih =>
    rw [List.map_cons, String.join_cons, String.toList_append, List.flatten_cons]
    exact ⟨(writes hp).append ih.1 ih.2, stops_source.append ih.2⟩

/-- After the semicolon of a property comes the name of another one, or the closing brace. -/
theorem skipKinds_flatten (h : List.Forall₂ HasLexemes ps lss) {ts : List Token}
    {ks : List Lexeme}
    (hts : ts.map Token.lexeme = .mark .semicolon :: (lss.flatten ++ .mark .closeBrace :: ks)) :
    (skipKinds [.mark .semicolon, .mark .comma] ts).map Token.lexeme =
      lss.flatten ++ .mark .closeBrace :: ks := by
  obtain ⟨t, r, rfl, hkind, hr⟩ := exists_mark hts
  have hskip : skipKinds [.mark .semicolon, .mark .comma] r = r := by
    cases h with
    | nil =>
      obtain ⟨t, r, rfl, hkind, -⟩ := exists_mark hr
      simp [skipKinds, hkind]
    | cons hp _ =>
      obtain ⟨u, -, rfl⟩ := hp
      obtain ⟨t, r, rfl, hkind, -, -⟩ := exists_text hr
      simp [skipKinds, hkind]
  have hfirst : skipKinds [.mark .semicolon, .mark .comma] (t :: r) =
      skipKinds [.mark .semicolon, .mark .comma] r := by
    simp [skipKinds, hkind]
  rw [hfirst, hskip, hr]

theorem reads_flatten (h : List.Forall₂ HasLexemes ps lss) (file : Path) (record : String)
    {ts : List Token} {ks : List Lexeme}
    (hts : ts.map Token.lexeme = lss.flatten ++ .mark .closeBrace :: ks) :
    Reads (properties file record ts) (·.map unlocated = ps.map unlocated)
      (.mark .closeBrace :: ks) := by
  induction h generalizing ts with
  | nil =>
    obtain ⟨t, r, rfl, hkind, -⟩ := exists_mark hts
    rw [properties, if_pos hkind]
    exact .read rfl hts
  | @cons p ls ps lss hp hps ih =>
    rw [List.flatten_cons, List.append_assoc] at hts
    obtain ⟨t, r, rfl, hbrace⟩ : ∃ t r, ts = t :: r ∧ t.kind ≠ .mark .closeBrace := by
      obtain ⟨u, -, rfl⟩ := hp
      obtain ⟨t, r, rfl, hkind, -, -⟩ := exists_text hts
      exact ⟨t, r, rfl, by simp [hkind]⟩
    rw [properties, if_neg hbrace]
    refine (reads hp file record hts).andThen fun p' r₁ h₁ hp' hr₁ => ?_
    refine (ih (skipKinds_flatten hps hr₁)).andThen fun ps' r₂ h₂ hps' hr₂ => ?_
    exact .read (by rw [List.map_cons, List.map_cons, hp', hps']) hr₂

end Property

/-! ## Records -/

/-- The type parameters after a first one. -/
theorem reads_moreParameters {names : List String} {ts : List Token} {ks : List Lexeme}
    (hts : ts.map Token.lexeme =
      (names.map fun name => [Lexeme.word name]).flatMap (.mark .comma :: ·) ++
        .mark .closeAngle :: ks) :
    Reads (moreParameters 0 ts) (· = names) ks := by
  induction names generalizing ts with
  | nil =>
    obtain ⟨t, r, rfl, hkind, hr⟩ := exists_mark hts
    rw [moreParameters]
    simp only [hkind, TokenKind.mark.injEq, reduceCtorEq, if_false, if_true]
    exact .read rfl hr
  | cons name names ih =>
    obtain ⟨t, r, rfl, hkind, hr⟩ := exists_mark hts
    rw [moreParameters]
    simp only [hkind, TokenKind.mark.injEq, reduceCtorEq, if_false, decide_true, Bool.and_self,
      if_true]
    refine (reads_takeName hr).andThen fun token r₁ h₁ hname hr₁ => Reads.weaken ?_ _
    exact (ih hr₁).map fun names' hnames => by rw [hname, hnames]

theorem reads_typeParameters {names : List String} {ts : List Token} {ks : List Lexeme}
    (hts : ts.map Token.lexeme =
      argumentLexemes (names.map fun name => [Lexeme.word name]) ++ ks)
    (hend : leadKind ks ≠ .mark .openAngle) :
    Reads (typeParameters ts) (· = names) ks := by
  cases names with
  | nil =>
    cases ts with
    | nil => exact .read rfl hts
    | cons t r =>
      have hkind : t.kind ≠ .mark .openAngle := headKind_ne hts hend
      rw [typeParameters, if_neg hkind]
      exact .read rfl hts
  | cons name names =>
    simp only [List.map_cons, argumentLexemes, List.cons_append, List.append_assoc,
      List.nil_append] at hts
    obtain ⟨t, r, rfl, hkind, hr⟩ := exists_mark hts
    rw [typeParameters, if_pos hkind]
    refine (reads_takeName hr).andThen fun token r₁ h₁ hname hr₁ => Reads.weaken ?_ _
    exact (reads_moreParameters hr₁).map fun names' hnames => by rw [hname, hnames]

namespace Record

def HasLexemes (r : Record) (ls : List Lexeme) : Prop :=
  ∃ lss, List.Forall₂ Property.HasLexemes r.properties lss ∧
    ls = .word "interface" :: .word r.name ::
      (argumentLexemes (r.typeParameters.map fun name => [Lexeme.word name]) ++
        .mark .openBrace :: (lss.flatten ++ [.mark .closeBrace]))

variable {r : Record} {ls : List Lexeme}

theorem exists_lexemes (h : r.Writable) : ∃ ls, r.HasLexemes ls := by
  have hall : ∀ p ∈ r.properties, ∃ ls, p.HasLexemes ls := by
    intro p hp
    obtain ⟨u, hu⟩ := exists_typeExpr (h.types p hp)
    exact ⟨_, u, hu, rfl⟩
  obtain ⟨lss, hlss⟩ := exists_forall₂ hall
  exact ⟨_, lss, hlss, rfl⟩

theorem writes (h : r.HasLexemes ls) (hr : r.Writable) : Writes r.source.toList ls := by
  obtain ⟨lss, hlss, rfl⟩ := h
  obtain ⟨hproperties, -⟩ := Property.writes_flatten hlss
  have hclose : Writes [Mark.closeBrace.char] [.mark .closeBrace] := Writes.nil.mark_append _
  have hbody := ((hproperties.append hclose (stops_mark _ _)).space_append.mark_append
    .openBrace).space_append
  have hparameters : ∀ name ∈ r.typeParameters, Writes name.toList [.word name] :=
    fun name hname => Writes.word ⟨name, hr.typeParameters name hname⟩
  obtain ⟨harguments, hstops⟩ := writes_arguments (f := id) hparameters
  rw [List.map_id] at harguments hstops
  have hname := (Writes.word ⟨r.name, hr.name⟩).append
    (harguments.append hbody (stops_space _)) (hstops.append (stops_space _))
  have hkeyword := (Writes.word Word.interface).append hname.space_append (stops_space _)
  simp only [source, String.toList_append, List.append_assoc]
  exact hkeyword

theorem reads (h : r.HasLexemes ls) (file : Path) (start : Position) {ts : List Token}
    {ks : List Lexeme} (hts : ts.map Token.lexeme = ls ++ ks) :
    Reads (interface file start ts) (·.unlocated = r.unlocated) ks := by
  obtain ⟨lss, hlss, rfl⟩ := h
  simp only [List.cons_append, List.append_assoc, List.nil_append] at hts
  rw [interface]
  refine (reads_takeKeyword rfl hts).andThen fun _ r₁ h₁ _ hr₁ => ?_
  refine (reads_takeName hr₁).andThen fun name r₂ h₂ hname hr₂ => ?_
  have hbrace := leadKind_mark_ne (m := .openBrace) (n := .openAngle) (by decide)
  refine (reads_typeParameters hr₂ (hbrace _)).andThen fun parameters r₃ h₃ hparameters hr₃ => ?_
  have hextends : headKind r₃ ≠ .keyword .extendsWord := by
    refine headKind_ne hr₃ ?_
    intro heq
    cases heq
  rw [if_neg hextends]
  refine (reads_takeMark hr₃).andThen fun _ r₄ h₄ _ hr₄ => ?_
  refine (Property.reads_flatten hlss file _ hr₄).andThen fun ps r₅ h₅ hps hr₅ => ?_
  refine (reads_takeMark hr₅).andThen fun _ r₆ h₆ _ hr₆ => .read ?_ hr₆
  rw [unlocated, unlocated, hname, hparameters, hps]

end Record

end SchemaGrammar
