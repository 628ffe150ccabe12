import SchemaGrammar.Proofs.ArrayTypes
import SchemaGrammar.Proofs.KeptResolution
import SchemaGrammar.Proofs.Notation.Unambiguous
import SchemaGrammar.Proofs.Rendering
import SchemaGrammar.Proofs.Trimming

/-!
# Declarations that are added

Declarations that are added to a schema take no spelling from those it has: a name that resolved
stays what it was, since names are unique, and an array type cannot be a name, since names that can
be written hold letters only. Hence the elements of the schema are in the grammar of the greater one
as they were, behind those that are added.
-/
namespace SchemaGrammar

namespace Spelling

/-- A name of letters is no spelling of an array. -/
theorem arrayElement_of_isPlainName {name : String} (h : isPlainName name = true) :
    arrayElement name = none := by
  have hletters : ∀ c ∈ Text.trimBlanks name.toList, c.isAlpha = true := by
    intro c hc
    exact (isPlainName_iff.mp h).2 c (Text.mem_of_mem_trimBlanks hc)
  rw [Option.eq_none_iff_forall_ne_some]
  intro element helement
  obtain hgeneric | hbracket := arrayElement_eq_some helement
  · obtain ⟨_, _, _, -, -, -, -, hshape⟩ := exists_of_genericElement hgeneric
    cases hletters '<' (by simp [hshape])
  · obtain ⟨_, _, -, -, -, hshape⟩ := exists_of_bracketElement hbracket
    cases hletters '[' (by simp [hshape])

end Spelling

namespace ResolutionStep

variable {scope : Scope} {word : String} {item : ItemType}

theorem claim_enumeration_eq_some : enumeration.claim scope word = some item ↔
    word ∈ scope.enumerations ∧ .element word = item := by
  unfold claim
  rw [Option.ite_none_right_eq_some, Option.some.injEq]

theorem claim_record_eq_some : record.claim scope word = some item ↔
    word ∈ scope.records ∧ .element word = item := by
  unfold claim
  rw [Option.ite_none_right_eq_some, Option.some.injEq]

theorem claim_recordArray_eq_some : recordArray.claim scope word = some item ↔
    ∃ name, Spelling.arrayElement word = some name ∧ name ∈ scope.records ∧
      .array name = item := by
  unfold claim
  rw [Option.bind_eq_some_iff]
  simp only [Option.ite_none_right_eq_some, Option.some.injEq]

end ResolutionStep

namespace Schema

variable {s s' t : Schema} {root : String}

open ResolutionStep in
/-- More names take no spelling from those that resolve, if no name is both of a record and of an
enumeration, and all are made of letters. -/
theorem keepsItems_of_subset (hrecords : s.recordNames ⊆ s'.recordNames)
    (henumerations : s.enumerationNames ⊆ s'.enumerationNames)
    (hdisjoint : ∀ name ∈ s'.recordNames, name ∉ s'.enumerationNames)
    (hplain : ∀ name, name ∈ s'.recordNames ∨ name ∈ s'.enumerationNames →
      isPlainName name = true) : s.KeepsItems s' := by
  intro spelling item hitem
  unfold Scope.item? at hitem ⊢
  generalize Spelling.trim spelling = word at hitem ⊢
  simp only [order, findSome?_cons_eq_or, List.findSome?_nil, Option.or_none,
    Option.or_eq_some_iff] at hitem ⊢
  -- the first two steps do not look at the declared names
  rcases hitem with hbuiltin | ⟨hbuiltin, hlist | ⟨hlist, hitem⟩⟩
  · exact .inl hbuiltin
  · exact .inr ⟨hbuiltin, .inl hlist⟩
  refine .inr ⟨hbuiltin, .inr ⟨hlist, ?_⟩⟩
  rcases hitem with henum | ⟨-, hrecord | ⟨-, harray⟩⟩
  · obtain ⟨hmem, hitem⟩ := claim_enumeration_eq_some.mp henum
    exact .inl (claim_enumeration_eq_some.mpr ⟨henumerations hmem, hitem⟩)
  · obtain ⟨hmem, hitem⟩ := claim_record_eq_some.mp hrecord
    have hmem' := hrecords hmem
    exact .inr ⟨if_neg (hdisjoint word hmem'), .inl (claim_record_eq_some.mpr ⟨hmem', hitem⟩)⟩
  · obtain ⟨name, hname, hmem, hitem⟩ := claim_recordArray_eq_some.mp harray
    have hnot : ¬ (word ∈ s'.recordNames ∨ word ∈ s'.enumerationNames) := by
      intro hword
      rw [Spelling.arrayElement_of_isPlainName (hplain word hword)] at hname
      cases hname
    rw [not_or] at hnot
    exact .inr ⟨if_neg hnot.2, .inr ⟨if_neg hnot.1,
      claim_recordArray_eq_some.mpr ⟨name, hname, hrecords hmem, hitem⟩⟩⟩

theorem recordNames_append (s t : Schema) :
    (s ++ t).recordNames = s.recordNames ++ t.recordNames := by
  change ((s.declarations ++ t.declarations).filterMap _).map _ = _
  rw [List.filterMap_append, List.map_append]
  rfl

theorem enumerationNames_append (s t : Schema) :
    (s ++ t).enumerationNames = s.enumerationNames ++ t.enumerationNames := by
  change ((s.declarations ++ t.declarations).filterMap _).map _ = _
  rw [List.filterMap_append, List.map_append]
  rfl

theorem Compiled.not_mem_enumerationNames {g : Grammar} (h : s.Compiled root g) {name : String}
    (hname : name ∈ s.recordNames) : name ∉ s.enumerationNames := by
  obtain ⟨r, hr, rfl⟩ := List.mem_map.mp hname
  intro henum
  obtain ⟨en, hen, heq⟩ := List.mem_map.mp henum
  cases h.eq_of_name_eq (p := .object r) (q := .values en) hr hen heq.symm

/-- The grammar behind a grammar text, with its lines. -/
theorem exists_grammar_of_grammarText {lists : ListElements} {text : String}
    (h : s.grammarText root lists = .ok text) : ∃ g, s.grammar root lists = .ok g ∧
      (∀ e ∈ g.elements, e.IsPlain) ∧
      text.toList.splitOn '\n' = g.elements.map (·.text.toList) ++ [[]] := by
  unfold grammarText at h
  cases hg : s.grammar root lists with
  | error e => simp [hg] at h
  | ok g =>
    cases htext : g.text with
    | error e => simp [hg, htext] at h
    | ok text' =>
      rw [hg] at h
      simp only [htext, Except.ok.injEq] at h
      obtain ⟨hfault, hlines⟩ := Grammar.text_eq_ok_iff.mp htext
      have hplain := Grammar.isPlain_of_fault? hfault (hasBuiltinPatterns_of_grammar hg)
      refine ⟨g, rfl, hplain, ?_⟩
      rw [← h, ← hlines]
      exact Grammar.splitOn_lines hplain

/-- In a grammar that can be written no name of a declaration hides what resolved without it. -/
theorem keepsItems_append {g : Grammar} (h : (s ++ t).Compiled root g)
    (hplain : ∀ e ∈ g.elements, e.IsPlain) : s.KeepsItems (s ++ t) := by
  have hname {p : Production} (hp : (s ++ t).Has p) : isPlainName p.name = true := by
    obtain ⟨e, he, hy⟩ := h.exists_element hp
    rw [← name_of_yields hy]
    exact (hplain e he).name
  apply keepsItems_of_subset
  · rw [recordNames_append]
    exact List.subset_append_left _ _
  · rw [enumerationNames_append]
    exact List.subset_append_left _ _
  · intro name hrecord
    exact h.not_mem_enumerationNames hrecord
  · rintro name (hrecord | henum)
    · obtain ⟨r, hr, rfl⟩ := List.mem_map.mp hrecord
      exact hname (p := .object r) hr
    · obtain ⟨en, hen, rfl⟩ := List.mem_map.mp henum
      exact hname (p := .values en) hen

/-- The elements of added declarations stand behind the start production, in front of all others. -/
theorem grammar_append {g g' : Grammar} (hkeeps : s.KeepsItems (s ++ t))
    (h : s.grammar root .all = .ok g) (h' : (s ++ t).grammar root .all = .ok g') :
    ∃ added others, t.declarations.mapM (·.elements (s ++ t).scope) = .ok added ∧
      g.elements = rootElement root :: others ∧
      g'.elements = rootElement root :: (added.reverse.flatten ++ others) := by
  obtain ⟨produced, hproduced, -, -, rfl⟩ := grammar_eq_ok_iff.mp h
  obtain ⟨produced', hproduced', -, -, rfl⟩ := grammar_eq_ok_iff.mp h'
  have hkept : s.declarations.mapM (·.elements (s ++ t).scope) = .ok produced := by
    rw [mapM_eq_ok_iff] at hproduced ⊢
    exact hproduced.imp fun d es hes => hkeeps.elements_eq_ok hes
  change (s.declarations ++ t.declarations).mapM _ = _ at hproduced'
  rw [List.mapM_append, hkept] at hproduced'
  cases hadded : t.declarations.mapM (·.elements (s ++ t).scope) with
  | error e =>
    rw [hadded] at hproduced'
    cases hproduced'
  | ok added =>
    rw [hadded] at hproduced'
    cases hproduced'
    refine ⟨added, _, rfl, rfl, ?_⟩
    simp [listed, List.reverse_append]

theorem exists_grammarText {lists : ListElements} {g : Grammar} (h : s.grammar root lists = .ok g)
    (hplain : ∀ d ∈ s.declarations, ∃ name, d.name? = some name ∧ isPlainName name = true) :
    ∃ text, s.grammarText root lists = .ok text := by
  obtain ⟨g₀, hg₀, rfl⟩ := exists_compiled h
  have htext : (s.withLists lists g₀).text = .ok (s.withLists lists g₀).lines := by
    rw [Grammar.text_eq_of_closed, if_pos ((hg₀.invalidNames_eq_nil_iff lists).mpr hplain)]
    intro e he name hname
    exact List.mem_map.mpr (hg₀.exists_kept_of_reference he hname)
  refine ⟨(s.withLists lists g₀).lines, ?_⟩
  unfold grammarText
  rw [h]
  simp only [htext]

/-- Declarations that are added to a schema leave the lines of its grammar as they are, in order,
and their own lines stand behind that of the start production; what a spelling stands for stays. -/
theorem grammarText_append (s t : Schema) (root text text' : String)
    (h : s.grammarText root .all = .ok text) (h' : (s ++ t).grammarText root .all = .ok text') :
    (∃ added others, t.declarations.mapM (·.elements (s ++ t).scope) = .ok added ∧
      text.toList.splitOn '\n' = (rootElement root).text.toList :: others ∧
      text'.toList.splitOn '\n' = (rootElement root).text.toList ::
        (added.reverse.flatten.map (·.text.toList) ++ others)) ∧
    ∀ spelling item, s.scope.item? spelling = some item →
      (s ++ t).scope.item? spelling = some item := by
  obtain ⟨g, hg, -, hlines⟩ := exists_grammar_of_grammarText h
  obtain ⟨g', hg', hplain', hlines'⟩ := exists_grammar_of_grammarText h'
  obtain ⟨g', hcompiled, rfl⟩ := exists_compiled hg'
  have hkeeps : s.KeepsItems (s ++ t) := by
    apply keepsItems_append hcompiled
    intro e he
    exact hplain' e (hcompiled.mem_withLists.mpr ⟨he, nofun⟩)
  obtain ⟨added, others, hadded, helements, helements'⟩ := grammar_append hkeeps hg hg'
  refine ⟨⟨added, others.map (·.text.toList) ++ [[]], hadded, ?_, ?_⟩, hkeeps⟩
  · rw [hlines, helements, List.map_cons, List.cons_append]
  · rw [hlines', helements', List.map_cons, List.map_append, List.cons_append, List.append_assoc]

/-- An enumeration, and a record that refers to a record of `tree`. -/
def grove : Schema where
  declarations := [.enumeration ⟨"Season", [⟨"spring", some "spring", none⟩], none⟩,
    .record ⟨"Grove", [⟨"nodes", ⟨"Array<Node>", []⟩, none⟩], [], none⟩]

theorem grammarText_tree_append_grove : ∃ text text',
    tree.grammarText "Node" .all = .ok text ∧ (tree ++ grove).grammarText "Node" .all = .ok text' ∧
    (∃ added others, grove.declarations.mapM (·.elements (tree ++ grove).scope) = .ok added ∧
      text.toList.splitOn '\n' = (rootElement "Node").text.toList :: others ∧
      text'.toList.splitOn '\n' = (rootElement "Node").text.toList ::
        (added.reverse.flatten.map (·.text.toList) ++ others)) ∧
    (tree ++ grove).scope.item? "Node[]" = some (.array "Node") := by
  have htree : tree.grammar "Node" .all = .ok _ := rfl
  have hboth : (tree ++ grove).grammar "Node" .all = .ok _ := rfl
  obtain ⟨text, htext⟩ := exists_grammarText htree (by decide)
  obtain ⟨text', htext'⟩ := exists_grammarText hboth (by decide)
  obtain ⟨hlines, hitems⟩ := grammarText_append tree grove "Node" text text' htext htext'
  exact ⟨text, text', htext, htext', hlines, hitems "Node[]" _ rfl⟩

end Schema

end SchemaGrammar
