import SchemaGrammar.Proofs.Outcome
import SchemaGrammar.Proofs.RelatedLists
import SchemaGrammar.Proofs.Source.FaultPlaces
import SchemaGrammar.Proofs.Source.Layout
import SchemaGrammar.Proofs.Source.TakenTokens

/-!
# The tokens that errors are about

An error of a declaration in a source bears the place of a token. For a property it is the name of
that property, and for what is wrong with a whole declaration its first token.
-/
namespace SchemaGrammar

namespace Source

/-! ## Names of properties -/

variable {file : Path}

/-- A property bears the name and the place of its name token. -/
def NamedBy (file : Path) (p : Property) (name : Token) : Prop :=
  p.name = name.value ∧ p.location = some (locate file name.position)

theorem PropertyTokens.namedBy {p : Property} {name : Token} {ts : List Token}
    (h : PropertyTokens file p name ts) : NamedBy file p name ∧ name ∈ ts := by
  cases h with
  | mk _ _ _ _ _ hname hlocation => exact ⟨⟨hname, hlocation⟩, by simp⟩

theorem BodyTokens.namedBy {ps : List Property} {names ts : List Token}
    (h : BodyTokens file ps names ts) : List.Forall₂ (NamedBy file) ps names ∧ names ⊆ ts := by
  induction h with
  | nil => exact ⟨.nil, List.nil_subset _⟩
  | cons hp _ _ ih =>
    refine ⟨.cons hp.namedBy.1 ih.1, List.cons_subset.mpr ⟨?_, fun t ht => ?_⟩⟩
    · exact List.mem_append_left _ hp.namedBy.2
    · exact List.mem_append_right _ (List.mem_append_right _ (ih.2 ht))

theorem InterfaceTokens.namedBy {r : Record} {names ts : List Token}
    (h : InterfaceTokens file r names ts) :
    List.Forall₂ (NamedBy file) r.properties names ∧ names ⊆ ts := by
  cases h with
  | mk _ _ _ _ _ hbody _ =>
    refine ⟨hbody.namedBy.1, fun t ht => ?_⟩
    have hmem := hbody.namedBy.2 ht
    simp [hmem]

theorem map_value_of_namedBy {ps : List Property} {names : List Token}
    (h : List.Forall₂ (NamedBy file) ps names) :
    names.map Token.value = ps.map Property.name := by
  induction h with
  | nil => rfl
  | cons hp _ ih => rw [List.map_cons, List.map_cons, hp.1, ih]

/-! ## Declarations with an error -/

/-- The token that an error of a declaration is about. -/
inductive Blames (file : Path) : Declaration → List Token → CompileError → Token → Prop
  | unsupportedDeclaration {o t ts l} :
      Blames file (.other o) (t :: ts) (.unsupportedDeclaration o.kind o.name l) t
  | typeParameters {r t ts l} : r.typeParameters ≠ [] →
      Blames file (.record r) (t :: ts) (.typeParameters r.name r.typeParameters l) t
  | emptyEnumeration {e t ts l} : e.members = [] →
      Blames file (.enumeration e) (t :: ts) (.emptyEnumeration e.name l) t
  | memberWithoutValue {e m t ts l} : m ∈ e.members → m.value = none →
      Blames file (.enumeration e) (t :: ts) (.memberWithoutValue e.name m.name l) t
  /-- The name of the earliest property whose name is one before. -/
  | duplicateProperty {r words before t after ts l} : (∀ t ∈ words, t.kind ∈ modifiers) →
      InterfaceTokens file r (before ++ t :: after) ts → (before.map Token.value).Nodup →
      t.value ∈ before.map Token.value →
      Blames file (.record r) (words ++ ts) (.duplicateProperty r.name t.value l) t
  /-- The name of the property with the type, which is the name of no other one. -/
  | unresolvedType {r words names p t spelling ts l} : (∀ t ∈ words, t.kind ∈ modifiers) →
      InterfaceTokens file r names ts → (names.map Token.value).Nodup →
      (p, t) ∈ r.properties.zip names → spelling ∈ p.type.spellings →
      Blames file (.record r) (words ++ ts) (.unresolvedType r.name t.value spelling l) t

section Declarations

variable {s : Schema} {first : Token} {block : List Token} {e : CompileError}

theorem exists_blames_of_record {r : Record}
    (h : DeclarationTokens file (.record r) (first :: block))
    (hlocation : r.location = some (locate file first.position)) (he : r.Fault s e) :
    ∃ t ∈ first :: block, Blames file (.record r) (first :: block) e t ∧
      e.location? = some (locate file t.position) := by
  generalize htokens : first :: block = tokens at h
  cases h with
  | record hwords hinterface =>
  obtain ⟨hnames, hsubset⟩ := hinterface.namedBy
  cases he with
  | typeParameters hparameters =>
    rw [← htokens]
    exact ⟨first, List.mem_cons_self, .typeParameters hparameters, hlocation⟩
  | duplicateProperty _ hsplit hnodup hmem =>
    -- The name tokens are split where the properties are, so the token is the earliest one too.
    rw [hsplit] at hnames
    obtain ⟨before, t, after, rfl, hbefore, ht, -⟩ := exists_split_of_forall₂ hnames
    rw [← map_value_of_namedBy hbefore] at hnodup hmem
    rw [ht.1] at hmem ⊢
    refine ⟨t, ?_, .duplicateProperty hwords hinterface hnodup hmem, ht.2⟩
    exact List.mem_append_right _ (hsubset (by simp))
  | unresolvedType _ hnodup hfirst =>
    obtain ⟨before, p, after, hsplit, -, hp⟩ := hfirst
    obtain ⟨_, spelling, _, hspellings, -, -, rfl⟩ := hp
    rw [← map_value_of_namedBy hnames] at hnodup
    rw [hsplit] at hnames
    obtain ⟨before', t, after', rfl, hbefore, ht, -⟩ := exists_split_of_forall₂ hnames
    have hzip : (p, t) ∈ r.properties.zip (before' ++ t :: after') := by
      rw [hsplit, List.zip_append hbefore.length_eq]
      simp
    rw [ht.1]
    refine ⟨t, ?_, .unresolvedType hwords hinterface hnodup hzip (by simp [hspellings]), ht.2⟩
    exact List.mem_append_right _ (hsubset (by simp))

theorem exists_blames {d : Declaration} (h : DeclarationTokens file d (first :: block))
    (hlocation : d.location = some (locate file first.position)) (he : d.Fault s e) :
    ∃ t ∈ first :: block, Blames file d (first :: block) e t ∧
      e.location? = some (locate file t.position) := by
  cases d with
  | record r => exact exists_blames_of_record h hlocation he
  | enumeration en =>
    cases he with
    | empty hmembers =>
      exact ⟨first, List.mem_cons_self, .emptyEnumeration hmembers, hlocation⟩
    | memberWithoutValue hfirst =>
      obtain ⟨before, m, after, hsplit, -, hvalue, rfl⟩ := hfirst
      have hm : m ∈ en.members := by simp [hsplit]
      exact ⟨first, List.mem_cons_self, .memberWithoutValue hm hvalue, hlocation⟩
  | other o =>
    obtain rfl : e = _ := he
    exact ⟨first, List.mem_cons_self, .unsupportedDeclaration, hlocation⟩

end Declarations

/-! ## Sources with an error -/

theorem Laid.of_mem {ts : List Token} {parts : List (Declaration × List Token)}
    (h : Laid file ts parts) {d : Declaration} {block : List Token} (hd : (d, block) ∈ parts) :
    DeclarationTokens file d block ∧ block ⊆ ts ∧ ∃ first others, block = first :: others ∧
      d.location = some (locate file first.position) := by
  induction h with
  | done => cases hd
  | declaration _ htokens hlocation _ _ ih =>
    obtain heq | hd := List.mem_cons.mp hd
    · cases heq
      refine ⟨htokens, fun t ht => ?_, _, _, rfl, hlocation⟩
      exact List.mem_append_right _ (List.mem_append_left _ ht)
    · obtain ⟨htokens, hsubset, hfirst⟩ := ih hd
      refine ⟨htokens, fun t ht => ?_, hfirst⟩
      exact List.mem_append_right _ (List.mem_append_right _ (hsubset ht))

/-- The token of a text that an error of its schema is about: it is one of the tokens of the first
declaration with a fault. -/
inductive ErrorToken (file : Path) (text : String) (e : CompileError) (t : Token) : Prop
  | mk {s ts finish before d block after} : schema file text = .ok s →
      tokenList text = .ok (ts, finish) → Laid file ts (before ++ (d, block) :: after) →
      s.declarations = (before ++ (d, block) :: after).map Prod.fst →
      (∀ part ∈ before, ∀ e, ¬ part.1.Fault s e) → d.Fault s e → t ∈ block →
      Blames file d block e t → ErrorToken file text e t

theorem exists_standsFor_of_tokenList {text : String} {ts : List Token} {finish : Position}
    (h : tokenList text = .ok (ts, finish)) {t : Token} (ht : t ∈ ts) :
    ∃ span, t.StandsFor text.toList span := by
  obtain ⟨body, spans, hbody, htiling⟩ := (tiled_of_tokenList h).2.exists_spans
  obtain rfl : ts = body := (List.append_inj' hbody rfl).1
  obtain ⟨span, -, hspan⟩ := exists_of_forall₂_of_mem htiling.tokens.flip ht
  exact ⟨span, hspan⟩

theorem exists_errorToken {text : String} {s : Schema} (hs : schema file text = .ok s)
    {e : CompileError} (he : FirstFault (Declaration.Fault s) s.declarations e) :
    ∃ t span, ErrorToken file text e t ∧ t.StandsFor text.toList span ∧
      e.location? = some (locate file t.position) := by
  obtain ⟨ts, finish, rest, le, hlist, hread⟩ := schema_eq_ok hs
  obtain ⟨parts, hlaid, hparts⟩ := laid_of_declarations file hread
  obtain ⟨before, d, after, hsplit, hbefore, hd⟩ := he
  rw [← hparts] at hsplit
  obtain ⟨before, others, rfl, rfl, hothers⟩ := List.map_eq_append_iff.mp hsplit
  obtain ⟨⟨d, block⟩, after, rfl, rfl, rfl⟩ := List.map_eq_cons_iff.mp hothers
  have hmem : (d, block) ∈ before ++ (d, block) :: after := by simp
  obtain ⟨htokens, hsubset, first, others, rfl, hlocation⟩ := hlaid.of_mem hmem
  obtain ⟨t, ht, hblames, hplace⟩ := exists_blames htokens hlocation hd
  obtain ⟨span, hspan⟩ := exists_standsFor_of_tokenList hlist (hsubset ht)
  rw [List.forall_mem_map] at hbefore
  exact ⟨t, span, .mk hs hlist hlaid hparts.symm hbefore hd ht hblames, hspan, hplace⟩

end Source

theorem Schema.grammar_eq_error_of_grammarText {s : Schema} {root : String} {lists : ListElements}
    {e : CompileError} (h : s.grammarText root lists = .error (.compile e)) :
    s.grammar root lists = .error e := by
  rw [grammarText] at h
  cases hg : s.grammar root lists with
  | error e' =>
    rw [hg] at h
    cases h
    rfl
  | ok g =>
    rw [hg] at h
    dsimp only at h
    cases htext : g.text <;> rw [htext] at h <;> cases h

open Source

/-- An error with a place that compiling a source ends with has the place of the token that it is
about. -/
theorem compileSource_error_at_token {file : Path} {text root : String} {lists : ListElements}
    {e : CompileError} {c : Context}
    (h : compileSource file text none root lists = .error (.grammar (.compile e)))
    (hc : e.diagnostic.context = some c) : ∃ t span, ErrorToken file text e t ∧
      t.StandsFor text.toList span ∧ c.line = t.position.line ∧ c.column = t.position.column := by
  cases hs : schema file text with
  | error f =>
    have hload : Schema.ofSource file text = .error (.fault (f.diagnostic file text)) := by
      rw [Schema.ofSource, hs]
      rfl
    rw [compileSource_of_error hload] at h
    cases h
  | ok s =>
    have hload : Schema.ofSource file text = .ok s := by
      rw [Schema.ofSource, hs]
      rfl
    have hnone : DeclaresEnumerations none {} := rfl
    rw [compileSource_of_ok hload hnone] at h
    have htext : s.grammarText root lists = .error (.compile e) := by
      change (s.grammarText root lists).mapError CompilationError.grammar = _ at h
      cases htext : s.grammarText root lists with
      | error e' =>
        rw [htext] at h
        cases h
        rfl
      | ok grammar =>
        rw [htext] at h
        cases h
    have hgrammar := Schema.grammar_eq_error_of_grammarText htext
    have hcontext : e.location?.map Context.ofLocation = some c := hc
    cases Schema.grammar_eq_error_iff.mp hgrammar with
    | declaration he =>
      obtain ⟨t, span, htoken, hspan, hplace⟩ := exists_errorToken hs he
      rw [hplace] at hcontext
      cases hcontext
      exact ⟨t, span, htoken, hspan, rfl, rfl⟩
    | unknownRoot => cases hcontext
    | duplicateElements => cases hcontext

/-- A record with a repeated property, behind a record without a fault. -/
def repeatedName : String :=
  "interface A \x7b x: B \x7d\nexport interface B \x7b x: A\n readonly x: A \x7d"

theorem repeatedName_at_token : compileSource sourceFile repeatedName none "A" .all =
      .error (.grammar (.compile (.duplicateProperty "B" "x" (some ⟨"<schema>", 3, 11⟩)))) ∧
    ∃ t span, ErrorToken sourceFile repeatedName
        (.duplicateProperty "B" "x" (some ⟨"<schema>", 3, 11⟩)) t ∧
      t.StandsFor repeatedName.toList span ∧ t.position = ⟨3, 11⟩ := by
  have h : compileSource sourceFile repeatedName none "A" .all =
      .error (.grammar (.compile (.duplicateProperty "B" "x" (some ⟨"<schema>", 3, 11⟩)))) := by
    decide +kernel
  obtain ⟨t, span, htoken, hspan, hline, hcolumn⟩ := compileSource_error_at_token h rfl
  refine ⟨h, t, span, htoken, hspan, ?_⟩
  have hplace : t.position.line = 3 ∧ t.position.column = 11 :=
    ⟨Int.ofNat.inj hline.symm, Int.ofNat.inj hcolumn.symm⟩
  exact congrArg₂ Position.mk hplace.1 hplace.2

end SchemaGrammar
