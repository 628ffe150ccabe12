import SchemaGrammar.Proofs.Source.Layout
import SchemaGrammar.Proofs.Source.Reading

/-!
# Where properties are read

Each property that a source declares is read from its tokens, at some place among those of the
interface of its record.
-/
namespace SchemaGrammar.Source

theorem exists_property_of_properties {file : Path} {record : String} {ts rest : List Token}
    {ps : List Property} (h : (properties file record ts).Gives ps rest) :
    ∀ p ∈ ps, ∃ us rest', us <:+ ts ∧ (property file record us).Gives p rest' := by
  cases hts : ts with
  | nil =>
    subst hts
    rw [properties] at h
    exact absurd h Part.Gives.not_fault
  | cons t r =>
    rw [hts, properties] at h
    split_ifs at h with hclose
    · obtain ⟨rfl, -⟩ := Part.Gives.unique .read h
      exact List.forall_mem_nil _
    · obtain ⟨p, r₁, h₁, hp, h⟩ := h.of_andThen
      obtain ⟨ps', r₂, h₂, hps, h⟩ := h.of_andThen
      obtain ⟨rfl, -⟩ := Part.Gives.unique .read h
      have hsuffix : skipKinds [.mark .semicolon, .mark .comma] r₁ <:+ t :: r :=
        (List.dropWhile_suffix _).trans ((takes_property file record (t :: r)).suffix hp)
      refine List.forall_mem_cons.mpr ⟨⟨t :: r, r₁, List.suffix_refl _, hp⟩, ?_⟩
      intro p' hp'
      obtain ⟨us, rest', hus, hread⟩ := exists_property_of_properties hps p' hp'
      exact ⟨us, rest', hus.trans hsuffix, hread⟩
termination_by ts.length
decreasing_by
  have := length_skipKinds_le [.mark .semicolon, .mark .comma] r₁
  rw [hts]
  simp at h₁ ⊢
  omega

theorem exists_properties_of_interface {file : Path} {start : Position} {ts rest : List Token}
    {r : Record} (h : (interface file start ts).Gives r rest) :
    ∃ us rest', us <:+ ts ∧ (properties file r.name us).Gives r.properties rest' := by
  rw [interface] at h
  obtain ⟨keyword, r₁, h₁, hkeyword, h⟩ := h.of_andThen
  obtain ⟨name, r₂, h₂, hname, h⟩ := h.of_andThen
  obtain ⟨names, r₃, h₃, hnames, h⟩ := h.of_andThen
  split_ifs at h
  · exact absurd h Part.Gives.not_fault
  · obtain ⟨opening, r₄, h₄, hopening, h⟩ := h.of_andThen
    obtain ⟨ps, r₅, h₅, hps, h⟩ := h.of_andThen
    obtain ⟨closing, r₆, h₆, hclosing, h⟩ := h.of_andThen
    obtain ⟨rfl, -⟩ := Part.Gives.unique .read h
    refine ⟨r₄, r₅, ?_, hps⟩
    exact ((((takes_takeKind _ _).suffix hopening).trans
      ((takes_typeParameters _).suffix hnames)).trans
      ((takes_takeName _).suffix hname)).trans ((takes_takeKind _ _).suffix hkeyword)

theorem exists_interface_of_declaration {file : Path} {ts rest : List Token} {r : Record}
    (h : (declaration file ts).Gives (.record r) rest) :
    ∃ start us rest', us <:+ ts ∧ (interface file start us).Gives r rest' := by
  cases ts with
  | nil =>
    rw [declaration_of_nil file rfl] at h
    exact absurd h Part.Gives.not_fault
  | cons first r₀ =>
    have hsuffix := suffix_skipKinds modifiers (first :: r₀)
    cases hr : skipKinds modifiers (first :: r₀) with
    | nil =>
      rw [declaration_of_nil file hr] at h
      exact absurd h Part.Gives.not_fault
    | cons t r₁ =>
      rw [hr] at hsuffix
      rw [declaration_of_cons file hr (Nat.le_sub_one_of_lt hsuffix.length_le)] at h
      split_ifs at h
      · obtain ⟨r', hr', heq⟩ := h.of_weaken.of_map
        cases heq
        exact ⟨_, _, _, hsuffix, hr'⟩
      · obtain ⟨e, -, heq⟩ := h.of_weaken.of_map
        cases heq
      · obtain ⟨e, -, heq⟩ := h.of_weaken.of_map
        cases heq
      · split at h
        · obtain ⟨o, -, heq⟩ := h.of_weaken.of_map
          cases heq
        · exact absurd h Part.Gives.not_fault

theorem Laid.exists_declaration {file : Path} {ts : List Token}
    {parts : List (Declaration × List Token)} (h : Laid file ts parts) :
    ∀ d ∈ parts.map Prod.fst, ∃ us rest, us <:+ ts ∧
      (Source.declaration file us).Gives d rest := by
  induction h with
  | done => exact List.forall_mem_nil _
  | @declaration semicolons first block rest d parts le _ _ _ hread _ ih =>
    have hsuffix : first :: block ++ rest <:+ semicolons ++ (first :: block ++ rest) :=
      List.suffix_append _ _
    refine List.forall_mem_cons.mpr ⟨⟨_, rest, hsuffix, le, hread⟩, ?_⟩
    intro d' hd'
    obtain ⟨us, rest', hus, hdeclaration⟩ := ih d' hd'
    exact ⟨us, rest', (hus.trans (List.suffix_append _ _)).trans hsuffix, hdeclaration⟩

/-- A property of a source is read somewhere among its tokens. -/
theorem exists_property_of_schema {file : Path} {text : String} {finish : Position} {s : Schema}
    {ts : List Token} (h : Source.schema file text = .ok s)
    (hts : tokenList text = .ok (ts, finish)) {r : Record} (hr : r ∈ s.records) {p : Property}
    (hp : p ∈ r.properties) :
    ∃ us rest, us <:+ ts ∧ (property file r.name us).Gives p rest := by
  obtain ⟨ts', finish', rest, le, hlist, hread⟩ := schema_eq_ok h
  cases hts.symm.trans hlist
  obtain ⟨parts, hlaid, hparts⟩ := laid_of_declarations file hread
  obtain ⟨d, hd, hrecord⟩ := List.mem_filterMap.mp hr
  have hd' : Declaration.record r ∈ parts.map Prod.fst := by
    cases d <;> cases hrecord
    rwa [hparts]
  obtain ⟨us₁, rest₁, hsuffix₁, hdeclaration⟩ := hlaid.exists_declaration _ hd'
  obtain ⟨start, us₂, rest₂, hsuffix₂, hinterface⟩ := exists_interface_of_declaration hdeclaration
  obtain ⟨us₃, rest₃, hsuffix₃, hproperties⟩ := exists_properties_of_interface hinterface
  obtain ⟨us, rest₄, hsuffix, hproperty⟩ := exists_property_of_properties hproperties p hp
  exact ⟨us, rest₄, ((hsuffix.trans hsuffix₃).trans hsuffix₂).trans hsuffix₁, hproperty⟩

end SchemaGrammar.Source
