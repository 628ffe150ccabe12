import SchemaGrammar.Proofs.Source.FaultPlaces
import SchemaGrammar.Proofs.Source.Parsing
import SchemaGrammar.Proofs.Source.TypeTokens

/-!
# Types read from their own texts

The text of a type that was read anywhere in a source is read as the same type again, whole and
wherever it stands in a source of its own. So the text tells the type: no bar between alternatives
is taken for one inside type arguments, and no blank, comment or bar in front leaves a trace.
-/
namespace SchemaGrammar.Source

theorem endsType_nil : EndsType (leadKind []) := ⟨⟨nofun, nofun, nofun⟩, nofun, nofun⟩

/-- The canonical text of a type is read as the type, and nothing is left of it. -/
theorem TypeUnion.exists_rereads (u : TypeUnion) : ∃ ts finish,
    tokenList u.text = .ok (ts, finish) ∧
      ∀ owner, (Source.typeExpr owner ts).Gives u.typeExpr [] := by
  have hspells : Spells u.text.toList u.lexemes := by
    simpa using u.writes [] [] stops_nil .done
  obtain ⟨ts, finish, htokens, hlexemes⟩ := hspells.exists_tokenList
  refine ⟨ts, finish, htokens, fun owner => ?_⟩
  rw [← List.append_nil u.lexemes] at hlexemes
  obtain ⟨t, rest, le, hread, rfl, hrest⟩ := TypeUnion.reads owner u hlexemes endsType_nil
  obtain rfl := List.map_eq_nil_iff.mp hrest
  exact ⟨le, hread⟩

/-- Reading a type from the `n`th token of a text on gives `t`. -/
def TypeIn (text : String) (n : Nat) (t : TypeExpr) : Prop :=
  ∃ owner ts finish rest, tokenList text = .ok (ts, finish) ∧
    (typeExpr owner (ts.drop n)).Gives t rest

theorem TypeIn.exists_union {text : String} {n : Nat} {t : TypeExpr} (h : TypeIn text n t) :
    ∃ u : TypeUnion, t = u.typeExpr := by
  obtain ⟨owner, ts, finish, rest, htokens, hread⟩ := h
  have hnamed := (named_of_tokenList htokens).of_suffix (List.drop_suffix n ts)
  obtain ⟨u, -, -, hu, -⟩ := hread.exists_union hnamed
  exact ⟨u, hu⟩

/-- A type that is read anywhere in a text is read from its own text again, to the last token. Types
that are read from two texts and have one text have the same spellings. -/
theorem TypeIn.reread {text : String} {n : Nat} {t : TypeExpr} (h : TypeIn text n t) :
    (∃ ts finish, tokenList t.text = .ok (ts, finish) ∧
      ∀ owner, (typeExpr owner ts).Gives t []) ∧
    ∀ text' n' t', TypeIn text' n' t' → t'.text = t.text → t'.spellings = t.spellings := by
  obtain ⟨u, rfl⟩ := h.exists_union
  obtain ⟨ts, finish, htokens, hread⟩ := u.exists_rereads
  rw [← u.text_typeExpr] at htokens
  refine ⟨⟨ts, finish, htokens, hread⟩, fun text' n' t' h' htext => ?_⟩
  obtain ⟨u', rfl⟩ := h'.exists_union
  obtain ⟨ts', finish', htokens', hother⟩ := u'.exists_rereads
  rw [← u'.text_typeExpr, htext, htokens, Except.ok.injEq, Prod.mk.injEq] at htokens'
  obtain ⟨rfl, rfl⟩ := htokens'
  obtain ⟨hsame, -⟩ := (hread "").unique (hother "")
  rw [hsame]

/-- A source from whose third token on a type is read, over three lines and with comments. -/
def spreadType : String := "a: | A .\n b< /* c */ enum[ ] |\tB, C<D>>[] // d\n | É;"

def spreadTokens : List Token :=
  [⟨.mark .bar, "|", ⟨1, 4⟩⟩, ⟨.identifier, "A", ⟨1, 6⟩⟩, ⟨.mark .dot, ".", ⟨1, 8⟩⟩,
    ⟨.identifier, "b", ⟨2, 2⟩⟩, ⟨.mark .openAngle, "<", ⟨2, 3⟩⟩,
    ⟨.keyword .enumWord, "enum", ⟨2, 13⟩⟩, ⟨.mark .openBracket, "[", ⟨2, 17⟩⟩,
    ⟨.mark .closeBracket, "]", ⟨2, 19⟩⟩, ⟨.mark .bar, "|", ⟨2, 21⟩⟩,
    ⟨.identifier, "B", ⟨2, 23⟩⟩, ⟨.mark .comma, ",", ⟨2, 24⟩⟩, ⟨.identifier, "C", ⟨2, 26⟩⟩,
    ⟨.mark .openAngle, "<", ⟨2, 27⟩⟩, ⟨.identifier, "D", ⟨2, 28⟩⟩,
    ⟨.mark .closeAngle, ">", ⟨2, 29⟩⟩, ⟨.mark .closeAngle, ">", ⟨2, 30⟩⟩,
    ⟨.mark .openBracket, "[", ⟨2, 31⟩⟩, ⟨.mark .closeBracket, "]", ⟨2, 32⟩⟩,
    ⟨.mark .bar, "|", ⟨3, 2⟩⟩, ⟨.identifier, "É", ⟨3, 4⟩⟩]

theorem typeIn_spreadType : TypeIn spreadType 2 ⟨"A.b<enum[] | B, C<D>>[]", ["É"]⟩ := by
  have htokens : tokenList spreadType =
      .ok (⟨.identifier, "a", ⟨1, 1⟩⟩ :: ⟨.mark .colon, ":", ⟨1, 2⟩⟩ ::
        (spreadTokens ++ [⟨.mark .semicolon, ";", ⟨3, 5⟩⟩]), ⟨3, 6⟩) := by decide +kernel
  refine ⟨"a", _, _, [⟨.mark .semicolon, ";", ⟨3, 5⟩⟩], htokens, by decide, ?_⟩
  cbv

theorem reread_spreadType :
    TypeIn spreadType 2 ⟨"A.b<enum[] | B, C<D>>[]", ["É"]⟩ ∧
    (∃ ts finish, tokenList "A.b<enum[] | B, C<D>>[] | É" = .ok (ts, finish) ∧
      ∀ owner, (typeExpr owner ts).Gives ⟨"A.b<enum[] | B, C<D>>[]", ["É"]⟩ []) ∧
    TypeIn "A.b<enum[] | B, C<D>>[] | É" 0 ⟨"A.b<enum[] | B, C<D>>[]", ["É"]⟩ ∧
    (⟨"A.b<enum[] | B, C<D>>[]", ["É"]⟩ : TypeExpr).spellings =
      ["A.b<enum[] | B, C<D>>[]", "É"] := by
  obtain ⟨⟨ts, finish, htokens, hread⟩, hspellings⟩ := TypeIn.reread typeIn_spreadType
  have hagain : TypeIn "A.b<enum[] | B, C<D>>[] | É" 0 ⟨"A.b<enum[] | B, C<D>>[]", ["É"]⟩ :=
    ⟨"", ts, finish, [], htokens, hread ""⟩
  exact ⟨typeIn_spreadType, ⟨ts, finish, htokens, hread⟩, hagain, hspellings _ _ _ hagain rfl⟩

end SchemaGrammar.Source
