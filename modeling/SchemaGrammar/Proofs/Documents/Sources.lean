import SchemaGrammar.Proofs.Documents.RoundTrip
import SchemaGrammar.Proofs.Source.FaultPlaces
import SchemaGrammar.Proofs.Source.NestedTypes

/-!
# Documents of what sources declare

A source keeps an alternative whole where a document with types as texts cuts it at the bars of its
type arguments. But such an alternative stands for nothing, whole or cut, so the schemas of both
have the same grammars, and errors at the same properties.
-/
namespace SchemaGrammar

open Source Document

namespace Document

/-- What is before the first bar of a nested text is a spelling with a bracket that does not close.
-/
theorem exists_not_isClosed {text : String} (h : Nested 0 text.toList)
    (hbar : '|' ∈ text.toList) : ∃ spelling ∈ spellingsOfText text, ¬ IsClosed spelling.toList := by
  obtain ⟨pre, rest, hsplit, hpre⟩ := List.eq_append_cons_of_mem hbar
  have hopen : pre.count '>' < pre.count '<' := by simpa using h.bars pre rest hsplit
  have hpart : Text.trimBlanks pre ∈ partsOf text.toList := by
    rw [partsOf, hsplit, List.splitOn_append_cons_self, List.splitOn_eq_singleton hpre]
    exact List.mem_cons_self
  have hne : Text.trimBlanks pre ≠ [] := by
    intro hnil
    have hcount := Text.count_trimBlanks (c := '<') rfl pre
    rw [hnil, List.count_nil] at hcount
    omega
  refine ⟨String.ofList (Text.trimBlanks pre), ?_, fun hclosed => ?_⟩
  · rw [spellingsOfText_eq]
    exact List.mem_map_of_mem (List.mem_filter.mpr ⟨hpart, by simpa using hne⟩)
  · have hbalanced := hclosed.balanced
    rw [String.toList_ofList, Text.count_trimBlanks rfl, Text.count_trimBlanks rfl] at hbalanced
    omega

end Document

namespace Schema

variable {s : Schema}

/-- A type cannot be resolved exactly if some spelling of it stands for nothing. -/
theorem exists_slot?_eq_error_iff {t : TypeExpr} :
    (∃ spelling, s.scope.slot? t = .error spelling) ↔
      ∃ spelling ∈ t.spellings, ¬ s.Claims spelling := by
  have hall : (∀ spelling, s.scope.slot? t ≠ .error spelling) ↔
      ∀ spelling ∈ t.spellings, s.Claims spelling := by
    simp only [ne_eq, Scope.slot?_eq_error_iff, forall_not_firstFault]
    simp [claims_iff]
  rw [← not_iff_not]
  push Not
  exact hall

section Names

variable (hnames : ∀ name ∈ s.recordNames ++ s.enumerationNames, Unmarked name.toList)
include hnames

theorem not_claims_of_not_isClosed {spelling : String} (htrimmed : Text.IsTrimmed spelling.toList)
    (h : ¬ IsClosed spelling.toList) : ¬ s.Claims spelling := by
  intro hclaims
  have hclosed := hclaims.isClosed hnames
  rw [htrimmed.trimBlanks_eq] at hclosed
  exact h hclosed

/-- A type that source can describe is read from its text as a type that is resolved alike: itself
if no alternative has bars, and else one that cannot be resolved either. -/
theorem exists_rereads_resolvesAlike {t : TypeExpr}
    (hatoms : ∀ spelling ∈ t.spellings, ∃ a : TypeAtom, a.text = spelling) :
    ∃ t', TypeForm.text.Rereads t t' ∧ s.scope.ResolvesAlike t t' := by
  by_cases hbars : ∃ spelling ∈ t.spellings, '|' ∈ spelling.toList
  · obtain ⟨_, hmem, hbar⟩ := hbars
    obtain ⟨a, rfl⟩ := hatoms _ hmem
    obtain ⟨piece, hpiece, hopen⟩ := exists_not_isClosed a.nested hbar
    have hpieces : piece ∈ spellingsOfText t.text := by
      rw [TypeExpr.text, spellingsOfText_intercalate]
      exact List.mem_flatMap.mpr ⟨a.text, hmem, hpiece⟩
    obtain ⟨t', ht'⟩ : ∃ t' : TypeExpr, spellingsOfText t.text = t'.spellings := by
      obtain ⟨first, others, hcons⟩ := List.exists_cons_of_ne_nil (List.ne_nil_of_mem hpieces)
      exact ⟨⟨first, others⟩, hcons⟩
    have hwhole : ¬ s.Claims a.text :=
      not_claims_of_not_isClosed hnames a.isTrimmed fun hclosed => hclosed.bar hbar
    have hpart : ¬ s.Claims piece :=
      not_claims_of_not_isClosed hnames (isPlain_of_mem_spellingsOfText hpiece).trimmed hopen
    obtain ⟨_, hslot⟩ := exists_slot?_eq_error_iff.mpr ⟨_, hmem, hwhole⟩
    obtain ⟨_, hslot'⟩ := exists_slot?_eq_error_iff.mpr ⟨_, ht' ▸ hpieces, hpart⟩
    exact ⟨t', TypeForm.rereads_text_iff.mpr ht', .unresolved hslot hslot'⟩
  · push Not at hbars
    refine ⟨t, TypeForm.rereads_text_self_iff.mpr fun spelling hmem => ?_, .same rfl⟩
    obtain ⟨a, rfl⟩ := hatoms spelling hmem
    exact ⟨a.text_ne_empty, hbars _ hmem, a.isTrimmed⟩

end Names

section Canonical

variable (h : ∀ d ∈ s.declarations, d.IsCanonical)
include h

theorem isName_of_isCanonical : ∀ name ∈ s.recordNames ++ s.enumerationNames, IsName name := by
  refine List.forall_mem_append.mpr ⟨List.forall_mem_map.mpr fun r hr => ?_,
    List.forall_mem_map.mpr fun e he => ?_⟩
  · obtain ⟨d, hd, hrecord⟩ := List.mem_filterMap.mp hr
    cases d with
    | record => exact Option.some.inj hrecord ▸ (h _ hd).name
    | _ => cases hrecord
  · obtain ⟨d, hd, henumeration⟩ := List.mem_filterMap.mp he
    cases d with
    | enumeration => exact Option.some.inj henumeration ▸ h _ hd
    | _ => cases henumeration

theorem unmarked_of_isCanonical :
    ∀ name ∈ s.recordNames ++ s.enumerationNames, Unmarked name.toList :=
  fun name hname => (isName_of_isCanonical h name hname).unmarked

theorem exists_atom_of_isCanonical {t : TypeExpr} (ht : t ∈ s.types) :
    ∀ spelling ∈ t.spellings, ∃ a : TypeAtom, a.text = spelling := by
  obtain ⟨d, hd, ht⟩ := List.mem_flatMap.mp ht
  cases d with
  | record r =>
    obtain ⟨p, hp, rfl⟩ := List.mem_map.mp ht
    exact (h _ hd).types p hp
  | _ => cases ht

end Canonical

end Schema

theorem Source.isCanonical_of_schema {file : Path} {text : String} {s : Schema}
    (h : Source.schema file text = .ok s) : ∀ d ∈ s.declarations, d.IsCanonical := by
  obtain ⟨ts, finish, rest, le, hlist, hread⟩ := schema_eq_ok h
  have hwithin := within_declarations file ts (named_of_tokenList hlist)
  rw [hread] at hwithin
  exact hwithin.2

/-- What a source declares is loaded from its document with types as texts, and has the same grammar
text as in the source or the same error but for the spelling that it names. -/
theorem ofDocument_ofSource (file : Path) (text source : String) {s : Schema}
    (h : Schema.ofSource file text = .ok s) :
    ∃ s', Schema.ofDocument source (ofSchemaIn .text s) = .ok s' ∧
      ∀ root lists, s'.grammarText root lists = s.grammarText root lists ∨
        ∃ record property spelling spelling' location, s.grammarText root lists =
            .error (.compile (.unresolvedType record property spelling location)) ∧
          s'.grammarText root lists =
            .error (.compile (.unresolvedType record property spelling' location)) := by
  rw [Schema.ofSource, mapError_eq_ok_iff] at h
  have hcanonical := isCanonical_of_schema h
  have htypes : ∀ t ∈ s.types, ∃ t', TypeForm.text.Rereads t t' ∧ s.scope.ResolvesAlike t t' :=
    fun t ht => Schema.exists_rereads_resolvesAlike (Schema.unmarked_of_isCanonical hcanonical)
      (Schema.exists_atom_of_isCanonical hcanonical ht)
  obtain ⟨s', hs'⟩ := Schema.exists_retyped htypes
  have hrereads := hs'.imp fun _ _ ht => ht.1
  have hresolves := hs'.imp fun _ _ ht => ht.2
  exact ⟨s', ofDocument_eq_ok_iff.mpr (schema_eq_valid_iff.mpr hrereads), hresolves.grammarText_eq⟩

/-- A type argument with a bar. -/
def nestedUnion : String := "interface A \x7b b: Map<A | B>[] | A; \x7d"

def nestedUnionSchema (first : String) (others : List String) : Schema :=
  ⟨[.record ⟨"A", [⟨"b", ⟨first, others⟩, some (locate sourceFile ⟨1, 15⟩)⟩], [],
    some (locate sourceFile ⟨1, 1⟩)⟩]⟩

theorem ofDocument_nestedUnion :
    ∃ s s' location spelling', Schema.ofSource sourceFile nestedUnion = .ok s ∧
      Schema.ofDocument "A" (ofSchemaIn .text s) = .ok s' ∧
      s.types = [⟨"Map<A | B>[]", ["A"]⟩] ∧ s'.types = [⟨"Map<A", ["B>[]", "A"]⟩] ∧
      s.grammarText "A" .all =
        .error (.compile (.unresolvedType "A" "b" "Map<A | B>[]" location)) ∧
      s'.grammarText "A" .all = .error (.compile (.unresolvedType "A" "b" spelling' location)) := by
  have hs : Schema.ofSource sourceFile nestedUnion =
      .ok (nestedUnionSchema "Map<A | B>[]" ["A"]) := by decide +kernel
  have hcut : Schema.ofDocument "A" (ofSchemaIn .text (nestedUnionSchema "Map<A | B>[]" ["A"])) =
      .ok (nestedUnionSchema "Map<A" ["B>[]", "A"]) := by decide +kernel
  have herror : (nestedUnionSchema "Map<A | B>[]" ["A"]).grammarText "A" .all = .error (.compile
      (.unresolvedType "A" "b" "Map<A | B>[]" (some (locate sourceFile ⟨1, 15⟩)))) := by
    decide +kernel
  obtain ⟨s', hs', hgrammar⟩ := ofDocument_ofSource sourceFile nestedUnion "A" hs
  cases hcut.symm.trans hs'
  obtain hsame | ⟨record, property, spelling, spelling', location, hwhole, hpieces⟩ :=
    hgrammar "A" .all
  · exact ⟨_, _, _, _, hs, hs', rfl, rfl, herror, hsame.trans herror⟩
  · cases herror.symm.trans hwhole
    exact ⟨_, _, _, spelling', hs, hs', rfl, rfl, herror, hpieces⟩

end SchemaGrammar
