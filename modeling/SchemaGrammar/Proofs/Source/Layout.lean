import SchemaGrammar.Compilation
import SchemaGrammar.Proofs.Rendering
import SchemaGrammar.Proofs.Source.Insertion
import SchemaGrammar.Proofs.Source.Relocation

/-!
# The grammar text does not depend on layout

What is compiled depends on the lexemes of a source only, and those stay as they are when blanks and
comments are put between its tokens.
-/
namespace SchemaGrammar

/-- What an extra source of enumerations declares: nothing if there is none. -/
def DeclaresEnumerations (enumText : Option String) (enums : Schema) : Prop :=
  match enumText with
  | none => enums = {}
  | some enumText => enumerationsOfSource enumText = .ok enums

/-- A source is compiled if it is read, the extra source is read, and their schema has a text. -/
theorem compileSource_eq_ok_iff {file : Path} {text : String} {enumText : Option String}
    {root : String} {lists : ListElements} {grammar : String} :
    compileSource file text enumText root lists = .ok grammar ↔ ∃ s enums,
      Source.schema file text = .ok s ∧ DeclaresEnumerations enumText enums ∧
        (enums ++ s).grammarText root lists = .ok grammar := by
  simp only [compileSource, Schema.ofSource, bind, bind_eq_ok_iff, mapError_eq_ok_iff]
  cases enumText with
  | none =>
    simp [DeclaresEnumerations, bind_eq_ok_iff, mapError_eq_ok_iff, pure, Except.pure]
  | some enumText => simp [DeclaresEnumerations, bind_eq_ok_iff, mapError_eq_ok_iff]

theorem compileSource_of_error {file : Path} {text : String} {e : LoadError}
    (h : Schema.ofSource file text = .error e) {enumText : Option String} {root : String}
    {lists : ListElements} :
    compileSource file text enumText root lists = .error (.load e) := by
  rw [compileSource, h]
  rfl

theorem compileSource_of_ok {file : Path} {text : String} {s : Schema}
    (h : Schema.ofSource file text = .ok s) {enumText : Option String} {enums : Schema}
    (henums : DeclaresEnumerations enumText enums) {root : String} {lists : ListElements} :
    compileSource file text enumText root lists =
      ((enums ++ s).grammarText root lists).mapError .grammar := by
  rw [compileSource, h]
  cases enumText with
  | none =>
    cases henums
    rfl
  | some enumText =>
    rw [DeclaresEnumerations] at henums
    dsimp only
    rw [henums]
    rfl

theorem Schema.isData_of_grammarText {s : Schema} {root : String} {lists : ListElements}
    {grammar : String} (h : s.grammarText root lists = .ok grammar) :
    ∀ d ∈ s.declarations, d.IsData := by
  rw [grammarText] at h
  cases hg : s.grammar root lists with
  | error e =>
    rw [hg] at h
    cases h
  | ok g =>
    obtain ⟨g₀, hg₀, -⟩ := exists_compiled hg
    exact hg₀.data

namespace Source

def Anywhere {α : Type} (_ _ : α) : Prop := True

/-- Tokens with the same lexemes are alike, wherever they stand. -/
theorem allAlike_of_lexemes_eq {ts ts' : List Token}
    (h : ts'.map Token.lexeme = ts.map Token.lexeme) : AllAlike Anywhere ts ts' := by
  have hall : List.Forall₂ Eq (ts.map Token.lexeme) (ts'.map Token.lexeme) := by
    rw [h, List.forall₂_eq_eq_eq]
  rw [List.forall₂_map_left_iff, List.forall₂_map_right_iff] at hall
  refine hall.imp fun t t' hlexeme => ⟨?_, ?_, trivial⟩
  · exact (congrArg Prod.fst hlexeme).symm
  · exact (congrArg Prod.snd hlexeme).symm

theorem tokenList_eq_ok {text : String} {ts : List Token} (h : tokens text = .ok ts) :
    ∃ finish, tokenList text = .ok (ts.dropLast, finish) := by
  rw [tokenList, h]
  exact ⟨_, rfl⟩

theorem schema_eq_ok {file : Path} {text : String} {s : Schema} (h : schema file text = .ok s) :
    ∃ ts finish rest le, tokenList text = .ok (ts, finish) ∧
      declarations file ts = .read s.declarations rest le := by
  rw [schema] at h
  cases htokens : tokenList text with
  | error e =>
    rw [htokens] at h
    cases h
  | ok list =>
    obtain ⟨ts, finish⟩ := list
    rw [htokens] at h
    dsimp only at h
    cases hread : declarations file ts with
    | fault cause rest =>
      rw [hread] at h
      cases h
    | read ds rest le =>
      rw [hread] at h
      cases h
      exact ⟨ts, finish, rest, le, rfl, hread⟩

/-- Texts whose tokens are alike declare the same, but for locations. -/
theorem exists_schema_of_allAlike {text text' : String} {ts ts' : List Token}
    {finish finish' : Position} (hlist : tokenList text = .ok (ts, finish))
    (hlist' : tokenList text' = .ok (ts', finish')) (h : AllAlike Anywhere ts ts') {file : Path}
    {s : Schema} (hs : schema file text = .ok s) (hdata : ∀ d ∈ s.declarations, d.IsData)
    (file' : Path) : ∃ s', schema file' text' = .ok s' ∧ s.Alike Anywhere s' := by
  obtain ⟨us, _, rest, le, hus, hread⟩ := schema_eq_ok hs
  cases hlist.symm.trans hus
  have hplaces (p p' : Position) (_ : Anywhere p p') :
      Anywhere (some (locate file p)) (some (locate file' p')) := trivial
  have hagree := agree_declarations hplaces h (.inr ⟨_, rest, le, hread, hdata⟩)
  rw [hread] at hagree
  obtain ⟨ds', rest', le', hread', hds, -⟩ := hagree.exists_of_read
  rw [schema, hlist']
  dsimp only
  rw [hread']
  exact ⟨⟨ds'⟩, rfl, hds⟩

/-- Texts with the same lexemes declare the same, but for locations. -/
theorem exists_schema_alike {text text' : String} {ts ts' : List Token}
    (hts : tokens text = .ok ts) (hts' : tokens text' = .ok ts')
    (hlexemes : ts'.map Token.lexeme = ts.map Token.lexeme) {file : Path} {s : Schema}
    (hs : schema file text = .ok s) (hdata : ∀ d ∈ s.declarations, d.IsData) (file' : Path) :
    ∃ s', schema file' text' = .ok s' ∧ s.Alike Anywhere s' := by
  obtain ⟨finish, hlist⟩ := tokenList_eq_ok hts
  obtain ⟨finish', hlist'⟩ := tokenList_eq_ok hts'
  have halike : AllAlike Anywhere ts.dropLast ts'.dropLast := by
    apply allAlike_of_lexemes_eq
    rw [List.map_dropLast, List.map_dropLast, hlexemes]
  exact exists_schema_of_allAlike hlist hlist' halike hs hdata file'

end Source

open Source

/-- A source is compiled to the same text if it has the same lexemes. -/
theorem compileSource_eq_ok_of_lexemes_eq {text text' : String} {ts ts' : List Token}
    (hts : tokens text = .ok ts) (hts' : tokens text' = .ok ts')
    (hlexemes : ts'.map Token.lexeme = ts.map Token.lexeme) {file : Path}
    {enumText : Option String} {root : String} {lists : ListElements} {grammar : String}
    (h : compileSource file text enumText root lists = .ok grammar) (file' : Path) :
    compileSource file' text' enumText root lists = .ok grammar := by
  obtain ⟨s, enums, hs, henums, htext⟩ := compileSource_eq_ok_iff.mp h
  have hdata : ∀ d ∈ s.declarations, d.IsData := fun d hd =>
    Schema.isData_of_grammarText htext d (List.mem_append_right _ hd)
  obtain ⟨s', hs', halike⟩ := exists_schema_alike hts hts' hlexemes hs hdata file'
  have hself : enums.Alike Anywhere enums := .refl fun _ => trivial
  have htext' := (hself.append halike).grammarText_eq_ok htext
  exact compileSource_eq_ok_iff.mpr ⟨s', enums, hs', henums, htext'⟩

/-- A separator in front of a token leaves the lexemes as they are, and texts with the same lexemes
have the same grammar text, whatever the places of their tokens. -/
theorem layout_keeps_grammar :
    (∀ (pre sep rest : String) (ts : List Token) (t : Token), tokens (pre ++ rest) = .ok ts →
      t ∈ ts → t.kind ≠ .endMark → t.position = Position.after pre.toList →
      Separator sep.toList → ∃ ts', tokens (pre ++ sep ++ rest) = .ok ts' ∧
        ts'.map Token.lexeme = ts.map Token.lexeme) ∧
    ∀ (file file' : Path) (text text' : String) (ts ts' : List Token) (enumText : Option String)
      (root : String) (lists : ListElements) (grammar : String), tokens text = .ok ts →
      tokens text' = .ok ts' → ts'.map Token.lexeme = ts.map Token.lexeme →
      compileSource file text enumText root lists = .ok grammar →
      compileSource file' text' enumText root lists = .ok grammar := by
  refine ⟨?_, ?_⟩
  · intro pre sep rest ts t hts ht hkind hposition hsep
    exact exists_tokens_separated hts ht hkind hposition hsep
  · intro file file' text text' ts ts' enumText root lists grammar hts hts' hlexemes h
    exact compileSource_eq_ok_of_lexemes_eq hts hts' hlexemes h file'

/-- Comments, one of which closes late and one of which opens nothing. -/
def slashes : String := "\n/*/ */// /*\n"

theorem layout_of_slashes :
    (∃ ts', tokens ("interface A" ++ slashes ++ "\x7b\x7d") = .ok ts' ∧ ts'.map Token.lexeme =
      [(.keyword .interfaceWord, "interface"), (.identifier, "A"), Lexeme.mark .openBrace,
        Lexeme.mark .closeBrace, (.endMark, "")]) ∧
    ∃ grammar, compileSource sourceFile "interface A\x7b\x7d" none "A" .all = .ok grammar ∧
      compileSource sourceFile ("interface A" ++ slashes ++ "\x7b\x7d") none "A" .all =
        .ok grammar := by
  have hts : tokens "interface A\x7b\x7d" = .ok [⟨.keyword .interfaceWord, "interface", ⟨1, 1⟩⟩,
      ⟨.identifier, "A", ⟨1, 11⟩⟩, ⟨.mark .openBrace, "\x7b", ⟨1, 12⟩⟩,
      ⟨.mark .closeBrace, "\x7d", ⟨1, 13⟩⟩, Token.atEnd ⟨1, 14⟩] := by decide +kernel
  have hsep : Separator slashes.toList := by
    have hline : Padding ('/' :: '/' :: ([' ', '/', '*'] ++ '\n' :: [])) :=
      .lineComment (by decide) .nil
    have hblock : Padding ('/' :: '*' :: (['/', ' '] ++ '*' :: '/' ::
        ('/' :: '/' :: ([' ', '/', '*'] ++ '\n' :: [])))) := .blockComment (by decide) hline
    exact ⟨'\n', _, rfl, rfl, hblock⟩
  obtain ⟨ts', hts', hlexemes⟩ := layout_keeps_grammar.1 "interface A" slashes "\x7b\x7d" _
    ⟨.mark .openBrace, "\x7b", ⟨1, 12⟩⟩ hts (by decide) (by decide) (by decide) hsep
  have hcompiled : ∃ grammar,
      compileSource sourceFile "interface A\x7b\x7d" none "A" .all = .ok grammar := by
    have hschema : Source.schema sourceFile "interface A\x7b\x7d" =
        .ok ⟨[.record ⟨"A", [], [], some (locate sourceFile ⟨1, 1⟩)⟩]⟩ := by decide +kernel
    obtain ⟨g, hg, hclosed, hnames⟩ : ∃ g, Schema.grammar
        ({} ++ ⟨[.record ⟨"A", [], [], some (locate sourceFile ⟨1, 1⟩)⟩]⟩) "A" .all = .ok g ∧
        (∀ e ∈ g.elements, ∀ name ∈ e.references, name ∈ g.names) ∧ g.invalidNames = [] :=
      ⟨_, rfl, by decide, by decide⟩
    refine ⟨g.lines, compileSource_eq_ok_iff.mpr ⟨_, {}, hschema, rfl, ?_⟩⟩
    rw [Schema.grammarText, hg]
    dsimp only
    rw [Grammar.text_eq_of_closed hclosed, if_pos hnames]
  obtain ⟨grammar, hgrammar⟩ := hcompiled
  exact ⟨⟨ts', hts', hlexemes⟩, grammar, hgrammar,
    layout_keeps_grammar.2 _ _ _ _ _ _ _ _ _ _ hts hts' hlexemes hgrammar⟩

end SchemaGrammar
