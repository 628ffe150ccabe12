import SchemaGrammar.Loading
import SchemaGrammar.Proofs.Documents.Checks
import SchemaGrammar.Proofs.Documents.Spellings
import SchemaGrammar.Proofs.ReferencedLists
import SchemaGrammar.Proofs.Retyping

/-!
# Documents are read back

A schema that is written as a document and read again is the same but for its types, and each of
those is what its written form is read as.
-/
namespace SchemaGrammar.Document

variable {form : TypeForm}

def TypeForm.Rereads (form : TypeForm) (t t' : TypeExpr) : Prop :=
  typeExpr (ofTypeExprIn form t) = .valid t'

theorem property_eq_valid_iff {p p' : Property} :
    property (ofPropertyIn form p) = .valid p' ↔ p.Retyped form.Rereads p' := by
  have hcheck : property (ofPropertyIn form p) = .valid p' ↔
      ∃ t, typeExpr (ofTypeExprIn form p.type) = .valid t ∧ ⟨p.name, t, p.location⟩ = p' := by
    simp [property, ofPropertyIn, fieldsOf, locationField]
  rw [hcheck]
  constructor
  · rintro ⟨t, ht, rfl⟩
    exact ⟨rfl, ht, rfl⟩
  · intro h
    exact ⟨p'.type, h.type, by rw [← h.name_eq, ← h.location_eq]⟩

theorem record_eq_valid_iff {r r' : Record} :
    record (ofRecordIn form r) = .valid r' ↔ r.Retyped form.Rereads r' := by
  have hcheck : record (ofRecordIn form r) = .valid r' ↔
      ∃ ps, List.Forall₂ (Property.Retyped form.Rereads) r.properties ps ∧
        ⟨r.name, ps, r.typeParameters, r.location⟩ = r' := by
    simp [record, ofRecordIn, fieldsOf, locationField, kindField, literal, list,
      property_eq_valid_iff]
  rw [hcheck]
  constructor
  · rintro ⟨ps, hps, rfl⟩
    exact ⟨rfl, hps, rfl, rfl⟩
  · intro h
    exact ⟨_, h.properties, by rw [← h.name_eq, ← h.typeParameters_eq, ← h.location_eq]⟩

theorem declaration_eq_valid_iff {d d' : Declaration} :
    declaration (ofDeclarationIn form d) = .valid d' ↔ d.Retyped form.Rereads d' := by
  cases d with
  | record r =>
    have hcheck : declaration (ofDeclarationIn form (.record r)) =
        ((record (ofRecordIn form r)).map .record).under (.field "record") := rfl
    rw [hcheck, Check.under_eq_valid_iff, Check.map_eq_valid_iff]
    constructor
    · rintro ⟨r', hr', rfl⟩
      exact .record (record_eq_valid_iff.mp hr')
    · rintro ⟨h⟩
      exact ⟨_, record_eq_valid_iff.mpr h, rfl⟩
  | enumeration e =>
    have hcheck : declaration (ofDeclarationIn form (.enumeration e)) =
        ((enumeration (ofEnumeration e)).map .enumeration).under (.field "enum") := rfl
    rw [hcheck, enumeration_ofEnumeration, Check.under_eq_valid_iff, Check.map, Check.valid.injEq]
    constructor
    · rintro rfl
      exact .enumeration e
    · rintro ⟨⟩
      rfl
  | other o =>
    have hcheck : declaration (ofDeclarationIn form (.other o)) =
        ((otherDeclaration (ofOtherDeclaration o)).map .other).under (.field "other") := rfl
    rw [hcheck, otherDeclaration_ofOtherDeclaration, Check.under_eq_valid_iff, Check.map,
      Check.valid.injEq]
    constructor
    · rintro rfl
      exact .other o
    · rintro ⟨⟩
      rfl

theorem declarations_eq_valid_iff {s s' : Schema} :
    schema (ofDeclarationsIn form s.declarations) = .valid s' ↔ s.Retyped form.Rereads s' := by
  rw [ofDeclarationsIn, schema, Check.map_eq_valid_iff]
  simp only [Check.under_eq_valid_iff, items_map_eq_valid_iff, declaration_eq_valid_iff]
  constructor
  · rintro ⟨ds, hds, rfl⟩
    exact hds
  · intro h
    exact ⟨s'.declarations, h, rfl⟩

/-- The list of declarations alone is read like the object that holds it. -/
theorem schema_eq_valid_iff {s s' : Schema} :
    schema (ofSchemaIn form s) = .valid s' ↔ s.Retyped form.Rereads s' := by
  rw [← declarations_eq_valid_iff, ofSchemaIn, ofDeclarationsIn]
  simp [schema, fieldsOf, list]

/-! ## What each form of a type is read as -/

theorem typeOfSpellings_eq_valid_iff {spellings : List String} {t : TypeExpr} :
    typeOfSpellings spellings = .valid t ↔ spellings = t.spellings := by
  obtain ⟨first, others⟩ := t
  cases spellings <;> simp [typeOfSpellings, TypeExpr.spellings]

namespace TypeForm

variable {t t' : TypeExpr}

theorem spellings_injective (h : t.spellings = t'.spellings) : t = t' := by
  obtain ⟨first, others⟩ := t
  obtain ⟨first', others'⟩ := t'
  cases h
  rfl

theorem rereads_object : object.Rereads = Eq := by
  funext t t'
  simp only [Rereads, ofTypeExprIn, typeExpr, required_cons_self, Document.list,
    Check.under_eq_valid_iff, Check.andThen_eq_valid_iff, items_strings, Check.valid.injEq,
    exists_eq_left', typeOfSpellings_eq_valid_iff]
  exact propext ⟨spellings_injective, congrArg _⟩

theorem rereads_list : list.Rereads = Eq := by
  funext t t'
  simp only [Rereads, ofTypeExprIn, typeExpr, Check.under_eq_valid_iff, Check.andThen_eq_valid_iff,
    items_strings, Check.valid.injEq, exists_eq_left', typeOfSpellings_eq_valid_iff]
  exact propext ⟨spellings_injective, congrArg _⟩

theorem rereads_text_iff : text.Rereads t t' ↔ spellingsOfText t.text = t'.spellings := by
  rw [Rereads, ofTypeExprIn, typeExpr, Check.under_eq_valid_iff, typeOfSpellings_eq_valid_iff]

theorem rereads_text_self_iff :
    text.Rereads t t ↔ ∀ spelling ∈ t.spellings, Spelling.IsPlain spelling := by
  rw [rereads_text_iff, spellingsOfText_text_eq_iff]

end TypeForm

theorem ofDocument_eq_ok_iff {source : String} {v : Value} {s : Schema} :
    Schema.ofDocument source v = .ok s ↔ schema v = .valid s := by
  rw [Schema.ofDocument, ← Check.toExcept_eq_ok_iff]
  cases (schema v).toExcept <;> simp [Except.mapError]

/-- A schema is read back from its document, with types as objects or lists, always; with types as
texts, exactly if the spellings can stand between bars. -/
theorem ofDocument_ofSchema (source : String) (s : Schema) :
    Schema.ofDocument source (ofSchema s) = .ok s ∧
      Schema.ofDocument source (ofDeclarationsIn .object s.declarations) = .ok s ∧
      Schema.ofDocument source (ofSchemaIn .list s) = .ok s ∧
      Schema.ofDocument source (ofDeclarationsIn .list s.declarations) = .ok s ∧
      (∀ t : TypeExpr, typeExpr (ofTypeExprIn .text t) = .valid t ↔
        ∀ spelling ∈ t.spellings, Spelling.IsPlain spelling) ∧
      (Schema.ofDocument source (ofSchemaIn .text s) = .ok s ↔
        ∀ t ∈ s.types, ∀ spelling ∈ t.spellings, Spelling.IsPlain spelling) ∧
      (Schema.ofDocument source (ofDeclarationsIn .text s.declarations) = .ok s ↔
        ∀ t ∈ s.types, ∀ spelling ∈ t.spellings, Spelling.IsPlain spelling) := by
  have hfull (form : TypeForm) : Schema.ofDocument source (ofSchemaIn form s) = .ok s ↔
      s.Retyped form.Rereads s := by
    rw [ofDocument_eq_ok_iff, schema_eq_valid_iff]
  have hbare (form : TypeForm) :
      Schema.ofDocument source (ofDeclarationsIn form s.declarations) = .ok s ↔
        s.Retyped form.Rereads s := by
    rw [ofDocument_eq_ok_iff, declarations_eq_valid_iff]
  have hobject : s.Retyped TypeForm.object.Rereads s := by
    rw [TypeForm.rereads_object, Schema.retyped_eq]
  have hlist : s.Retyped TypeForm.list.Rereads s := by
    rw [TypeForm.rereads_list, Schema.retyped_eq]
  have htext : s.Retyped TypeForm.text.Rereads s ↔
      ∀ t ∈ s.types, ∀ spelling ∈ t.spellings, Spelling.IsPlain spelling := by
    simp only [Schema.retyped_self_iff, TypeForm.rereads_text_self_iff]
  exact ⟨(hfull .object).mpr hobject, (hbare .object).mpr hobject, (hfull .list).mpr hlist,
    (hbare .list).mpr hlist, fun t => TypeForm.rereads_text_self_iff, (hfull .text).trans htext,
    (hbare .text).trans htext⟩

theorem ofDocument_ofSchema_tree :
    (∀ t ∈ Schema.tree.types, ∀ spelling ∈ t.spellings, Spelling.IsPlain spelling) ∧
      Schema.ofDocument "tree" (ofSchemaIn .text Schema.tree) = .ok Schema.tree := by
  have hkind : Spelling.IsPlain "Kind" := ⟨by decide, by decide, .of_all rfl⟩
  have hstring : Spelling.IsPlain "string" := ⟨by decide, by decide, .of_all rfl⟩
  have hnodes : Spelling.IsPlain "Node[]" := ⟨by decide, by decide, .of_all rfl⟩
  have hplain : ∀ t ∈ Schema.tree.types, ∀ spelling ∈ t.spellings, Spelling.IsPlain spelling := by
    simp [Schema.types, Schema.tree, Schema.node, Declaration.types, TypeExpr.spellings, hkind,
      hstring, hnodes]
  exact ⟨hplain, (ofDocument_ofSchema "tree" Schema.tree).2.2.2.2.2.1.mpr hplain⟩

end SchemaGrammar.Document
