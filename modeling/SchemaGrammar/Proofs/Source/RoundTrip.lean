import SchemaGrammar.Proofs.Source.Enumerations
import SchemaGrammar.Proofs.Source.Records

/-!
# Written schemas are read back

The source text of a writable schema spells the lexemes of its declarations one after another. Each
declaration begins with its keyword, which neither a modifier nor a semicolon can be, so it is read
from its own lexemes, and the text gives the schema again, but for places.
-/
namespace SchemaGrammar

open Source

namespace Declaration

def HasLexemes (d : Declaration) (ls : List Lexeme) : Prop :=
  match d with
  | record r => r.Writable ∧ r.HasLexemes ls
  | enumeration e => e.Writable ∧ ls = e.lexemes
  | other _ => False

variable {d : Declaration} {ls : List Lexeme}

theorem exists_lexemes (h : d.Writable) : ∃ ls, d.HasLexemes ls := by
  cases d with
  | record r =>
    obtain ⟨ls, hls⟩ := Record.exists_lexemes h
    exact ⟨ls, h, hls⟩
  | enumeration e => exact ⟨e.lexemes, h, rfl⟩
  | other o => exact h.elim

theorem writes (h : d.HasLexemes ls) : Writes d.source.toList ls := by
  cases d with
  | record r => exact Record.writes h.2 h.1
  | enumeration e =>
    obtain ⟨he, rfl⟩ := h
    exact Enumeration.writes he
  | other o => exact h.elim

/-- A declaration begins with a keyword. -/
theorem exists_keyword (h : d.HasLexemes ls) :
    ∃ kind value ks, ls = (kind, value) :: ks ∧
      (kind = .keyword .interfaceWord ∨ kind = .keyword .enumWord) := by
  cases d with
  | record r =>
    obtain ⟨-, lss, -, rfl⟩ := h
    exact ⟨_, _, _, rfl, .inl rfl⟩
  | enumeration e =>
    obtain ⟨-, rfl⟩ := h
    exact ⟨_, _, _, rfl, .inr rfl⟩
  | other o => exact h.elim

/-- No token is skipped before a declaration, be they modifiers or semicolons. -/
theorem skipKinds_eq (kinds : List TokenKind) (h : d.HasLexemes ls)
    (hinterface : .keyword .interfaceWord ∉ kinds) (henum : .keyword .enumWord ∉ kinds)
    {ts : List Token} {ks : List Lexeme} (hts : ts.map Token.lexeme = ls ++ ks) :
    ∃ t r, ts = t :: r ∧ skipKinds kinds ts = t :: r := by
  obtain ⟨kind, value, js, rfl, hkind⟩ := exists_keyword h
  obtain ⟨t, r, rfl, ht, -⟩ := List.map_eq_cons_iff.mp hts
  have hkind' : t.kind = kind := congrArg Prod.fst ht
  have hnot : t.kind ∉ kinds := by
    rw [hkind']
    obtain rfl | rfl := hkind
    · exact hinterface
    · exact henum
  refine ⟨t, r, rfl, ?_⟩
  simp [skipKinds, hnot]

theorem reads (h : d.HasLexemes ls) (file : Path) {ts : List Token} {ks : List Lexeme}
    (hts : ts.map Token.lexeme = ls ++ ks) :
    Reads (declaration file ts) (·.unlocated = d.unlocated) ks := by
  obtain ⟨t, r, rfl, hskip⟩ := skipKinds_eq modifiers h (by decide) (by decide) hts
  rw [declaration_of_cons file hskip (Nat.le_refl _)]
  cases d with
  | record s =>
    have hkind : t.kind = .keyword .interfaceWord := by
      obtain ⟨-, lss, -, rfl⟩ := h
      exact congrArg Prod.fst (List.cons.inj hts).1
    rw [if_pos hkind]
    refine Reads.weaken ((Record.reads h.2 file _ hts).map fun s' hs' => ?_) _
    rw [unlocated, unlocated, hs']
  | enumeration e =>
    obtain ⟨he, rfl⟩ := h
    have hkind : t.kind = .keyword .enumWord := congrArg Prod.fst (List.cons.inj hts).1
    have hinterface : t.kind ≠ .keyword .interfaceWord := by
      rw [hkind]
      intro heq
      cases heq
    rw [if_neg hinterface, if_pos hkind]
    refine Reads.weaken ((Enumeration.reads he file _ hts).map fun e' he' => ?_) _
    rw [unlocated, unlocated, he']
  | other o => exact h.elim

/-! ### Lists of declarations -/

variable {ds : List Declaration} {lss : List (List Lexeme)}

theorem spells_flatten (h : List.Forall₂ HasLexemes ds lss) :
    Writes (String.join (ds.map (·.source ++ "\n"))).toList lss.flatten := by
  induction h with
  | nil => exact .nil
  | cons hd _ ih =>
    rw [List.map_cons, String.join_cons, List.flatten_cons]
    simp only [String.toList_append, List.append_assoc]
    exact (writes hd).append ih.lineEnd_append (stops_lineEnd _)

theorem reads_flatten (h : List.Forall₂ HasLexemes ds lss) (file : Path) {ts : List Token}
    (hts : ts.map Token.lexeme = lss.flatten) :
    Reads (declarations file ts) (·.map unlocated = ds.map unlocated) [] := by
  induction h generalizing ts with
  | nil =>
    obtain rfl := List.map_eq_nil_iff.mp hts
    rw [declarations_of_nil file rfl]
    exact .read rfl rfl
  | @cons d ls ds lss hd _ ih =>
    rw [List.flatten_cons] at hts
    obtain ⟨t, r, rfl, hskip⟩ := skipKinds_eq [.mark .semicolon] hd (by decide) (by decide)
      hts
    rw [declarations_of_cons file hskip (Nat.le_refl _)]
    refine (reads hd file hts).andThen fun d' r₁ h₁ hd' hr₁ => ?_
    refine (ih hr₁).andThen fun ds' r₂ h₂ hds' hr₂ => .read ?_ hr₂
    rw [List.map_cons, List.map_cons, hd', hds']

end Declaration

/-- Reading the source text of a writable schema gives that schema, but for places. -/
theorem Schema.source_read_back (file : Path) {s : Schema} (h : s.Writable) :
    ∃ s', Source.schema file s.source = .ok s' ∧ s'.unlocated = s.unlocated := by
  obtain ⟨lss, hlss⟩ := exists_forall₂ fun d hd => Declaration.exists_lexemes (h d hd)
  have hspells : Spells s.source.toList lss.flatten := by
    have hwrites := Declaration.spells_flatten hlss [] [] stops_nil .done
    rwa [List.append_nil, List.append_nil] at hwrites
  obtain ⟨ts, finish, htokens, hlexemes⟩ := hspells.exists_tokenList
  obtain ⟨ds, rest, hle, hread, hds, -⟩ := Declaration.reads_flatten hlss file hlexemes
  refine ⟨⟨ds⟩, ?_, by rw [unlocated, unlocated, hds]⟩
  rw [Source.schema, htokens]
  dsimp only
  rw [hread]

/-- A schema with keywords for names, nested type arguments and a name to be escaped. -/
def Schema.written : Schema where
  declarations := [
    .record ⟨"interface", [⟨"a \"b\"\n", ⟨"Map<enum.T[] | T, T>[]", ["T"]⟩, none⟩], ["T"], none⟩,
    .enumeration ⟨"enum", [⟨"m", some "v", none⟩, ⟨"k", none, none⟩], none⟩]

theorem Schema.written_read_back :
    ∃ s', Source.schema (Path.ofString "written.ts") written.source = .ok s' ∧
      s'.unlocated = written.unlocated := by
  have hT : IsName "T" := isName_of_cons rfl rfl rfl
  have hMap : IsName "Map" := isName_of_cons rfl rfl rfl
  have hatom : ∃ a : TypeAtom, a.text = "T" := ⟨.mk ⟨"T", hT⟩ [] [] 0, rfl⟩
  have hgeneric : ∃ a : TypeAtom, a.text = "Map<enum.T[] | T, T>[]" :=
    ⟨.mk ⟨"Map", hMap⟩ []
      [.mk (.mk .enum [⟨"T", hT⟩] [] 1) [.mk ⟨"T", hT⟩ [] [] 0], .mk (.mk ⟨"T", hT⟩ [] [] 0) []] 1,
      rfl⟩
  refine source_read_back _ fun d hd => ?_
  simp only [written, List.mem_cons, List.not_mem_nil, or_false] at hd
  obtain rfl | rfl := hd
  · refine ⟨Word.interface.isName, by simpa using hT, ?_⟩
    simpa [TypeExpr.spellings] using And.intro hgeneric hatom
  · exact ⟨Word.enum.isName, by simp⟩

end SchemaGrammar
