import SchemaGrammar.Proofs.Locations
import SchemaGrammar.Proofs.Source.Agreement
import SchemaGrammar.Source.Declarations

/-!
# Declarations at other places

Records and enumerations are read alike from tokens that differ in places only, but for their
locations. A declaration of another kind is passed over by lines, so a source with none is read
alike wherever its tokens stand, and any source is if its lines keep their order.
-/
namespace SchemaGrammar.Source

variable {Q : Position → Position → Prop} {L : Option Location → Option Location → Prop}
  {file file' : Path}

/-! ## Interfaces -/

theorem agree_moreParameters {ts ts' : List Token} (h : AllAlike Q ts ts') (depth : Nat) :
    (moreParameters depth ts).Agree Q Eq (moreParameters depth ts') := by
  cases h with
  | nil =>
    rw [moreParameters]
    exact .fault .nil
  | @cons t t' r r' ht hr =>
    rw [moreParameters, moreParameters, ht.kind]
    refine .ite (fun _ => ?_) fun _ => .ite (fun _ => .ite (fun _ => ?_) fun _ => ?_) fun _ =>
      .ite (fun _ => ?_) fun _ => ?_
    · exact (agree_moreParameters hr _).weaken _ _
    · exact .read rfl hr
    · exact (agree_moreParameters hr _).weaken _ _
    · refine (agree_takeName hr).andThen fun name name' r₁ r₁' h₁ h₁' hname hr₁ => ?_
      refine ((agree_moreParameters hr₁ 0).map fun names _ hnames => ?_).weaken _ _
      rw [hname.value, hnames]
    · exact (agree_moreParameters hr _).weaken _ _
termination_by ts.length
decreasing_by
  all_goals simp
  all_goals omega

theorem agree_typeParameters {ts ts' : List Token} (h : AllAlike Q ts ts') :
    (typeParameters ts).Agree Q Eq (typeParameters ts') := by
  cases h with
  | nil => exact .read rfl .nil
  | @cons t t' r r' ht hr =>
    rw [typeParameters, typeParameters, ht.kind]
    refine .ite (fun _ => ?_) fun _ => ?_
    · refine (agree_takeName hr).andThen fun name name' r₁ r₁' h₁ h₁' hname hr₁ => ?_
      refine ((agree_moreParameters hr₁ 0).map fun names _ hnames => ?_).weaken _ _
      rw [hname.value, hnames]
    · exact .read rfl (.cons ht hr)

section

variable (hL : ∀ p p', Q p p' → L (some (locate file p)) (some (locate file' p')))
include hL

theorem agree_property {ts ts' : List Token} (h : AllAlike Q ts ts') (record : String) :
    (property file record ts).Agree Q (Property.Alike L) (property file' record ts') := by
  rw [property, property]
  rw [h.skipReadonly.headKind_eq]
  refine .ite (fun _ => .fault h.skipReadonly) fun _ => ?_
  refine (agree_takeMemberName h.skipReadonly).andThen fun name name' r₁ r₁' h₁ h₁' hname hr₁ => ?_
  dsimp only
  rw [hname.value, hr₁.headKind_eq]
  cases refusedProperty? (record ++ "." ++ name.value) (headKind r₁) with
  | some cause => exact .fault hr₁
  | none =>
    refine (agree_typeExpr hr₁.tail _).andThen fun type _ r₂ r₂' h₂ h₂' htype hr₂ => ?_
    exact .read ⟨rfl, htype.symm, hL _ _ hname.position⟩ hr₂

theorem agree_properties {ts ts' : List Token} (h : AllAlike Q ts ts') (record : String) :
    (properties file record ts).Agree Q (List.Forall₂ (Property.Alike L))
      (properties file' record ts') := by
  cases h with
  | nil =>
    rw [properties, properties]
    exact .fault .nil
  | @cons t t' r r' ht hr =>
    rw [properties, properties, ht.kind]
    refine .ite (fun _ => .read .nil (.cons ht hr)) fun _ => ?_
    refine (agree_property hL (.cons ht hr) record).andThen fun p p' r₁ r₁' h₁ h₁' hp hr₁ => ?_
    refine (agree_properties (hr₁.skipKinds _) record).andThen fun ps ps' r₂ r₂' h₂ h₂' hps hr₂ =>
      .read (.cons hp hps) hr₂
termination_by ts.length
decreasing_by
  have := length_skipKinds_le [.mark .semicolon, .mark .comma] r₁
  simp at h₁ ⊢
  omega

theorem agree_interface {ts ts' : List Token} (h : AllAlike Q ts ts') {start start' : Position}
    (hstart : Q start start') :
    (interface file start ts).Agree Q (Record.Alike L) (interface file' start' ts') := by
  rw [interface, interface]
  refine (agree_takeKind h _).andThen fun _ _ r₁ r₁' h₁ h₁' _ hr₁ => ?_
  refine (agree_takeName hr₁).andThen fun name name' r₂ r₂' h₂ h₂' hname hr₂ => ?_
  refine (agree_typeParameters hr₂).andThen fun parameters _ r₃ r₃' h₃ h₃' hparameters hr₃ => ?_
  rw [hr₃.headKind_eq, hname.value]
  refine .ite (fun _ => .fault hr₃) fun _ => ?_
  refine (agree_takeKind hr₃ _).andThen fun _ _ r₄ r₄' h₄ h₄' _ hr₄ => ?_
  refine (agree_properties hL hr₄ _).andThen fun ps ps' r₅ r₅' h₅ h₅' hps hr₅ => ?_
  refine (agree_takeKind hr₅ _).andThen fun _ _ r₆ r₆' h₆ h₆' _ hr₆ => ?_
  exact .read ⟨rfl, hps, hparameters.symm, hL _ _ hstart⟩ hr₆

end

/-! ## Enumerations -/

theorem agree_initializerParts {ts ts' : List Token} (h : AllAlike Q ts ts') (depth : Int) :
    (initializerParts depth ts).Agree Q Eq (initializerParts depth ts') := by
  induction h generalizing depth with
  | nil => exact .fault .nil
  | cons ht hr ih =>
    rw [initializerParts, initializerParts, ht.kind, ht.value]
    refine .ite (fun _ => .read rfl (.cons ht hr)) fun _ => ?_
    exact ((ih _).map fun parts _ hparts => congrArg _ hparts).weaken _ _

theorem agree_initializer {ts ts' : List Token} (h : AllAlike Q ts ts') :
    (initializer ts).Agree Q Eq (initializer ts') :=
  (agree_initializerParts h 0).map fun _ _ hparts => congrArg _ hparts

/-- A lone string is one in both lists, or in neither. -/
theorem loneString?_alike {ts ts' : List Token} (h : AllAlike Q ts ts') :
    (loneString? ts = none ∧ loneString? ts' = none) ∨ ∃ value r r',
      loneString? ts = some (value, r) ∧ loneString? ts' = some (value, r') ∧ AllAlike Q r r' := by
  cases h with
  | nil => exact .inl ⟨rfl, rfl⟩
  | @cons t t' r r' ht hr =>
    rw [loneString?, loneString?, ht.kind, ht.value, AllAlike.headKind_eq hr]
    split_ifs
    · exact .inr ⟨_, _, _, rfl, rfl, hr⟩
    · exact .inl ⟨rfl, rfl⟩

theorem agree_memberValue {ts ts' : List Token} (h : AllAlike Q ts ts') :
    (memberValue ts).Agree Q Eq (memberValue ts') := by
  cases h with
  | nil => exact .read rfl .nil
  | @cons t t' r r' ht hr =>
    rw [memberValue, memberValue, ht.kind]
    refine .ite (fun _ => ?_) fun _ => .read rfl (.cons ht hr)
    obtain ⟨hnone, hnone'⟩ | ⟨value, r₁, r₁', hsome, hsome', hr₁⟩ := loneString?_alike hr
    · split
      · next heq => cases hnone.symm.trans heq
      · split
        · next heq => cases hnone'.symm.trans heq
        · exact ((agree_initializer hr).map fun text _ htext => htext ▸ rfl).weaken _ _
    · split
      · next heq =>
        cases hsome.symm.trans heq
        split
        · next heq' =>
          cases hsome'.symm.trans heq'
          exact .read rfl hr₁
        · next heq' => cases hsome'.symm.trans heq'
      · next heq => cases hsome.symm.trans heq

theorem agree_memberEnd {ts ts' : List Token} (h : AllAlike Q ts ts') :
    (memberEnd ts).Agree Q Eq (memberEnd ts') := by
  rw [memberEnd, memberEnd, h.headKind_eq]
  refine .ite (fun _ => .read rfl h) fun _ => ?_
  exact ((agree_takeKind h _).map fun _ _ _ => rfl).weaken _ _

theorem agree_members {ts ts' : List Token} (h : AllAlike Q ts ts') (enumeration : String) :
    (members enumeration ts).Agree Q Eq (members enumeration ts') := by
  cases h with
  | nil =>
    rw [members]
    exact .fault .nil
  | @cons t t' r r' ht hr =>
    rw [members, members, ht.kind]
    refine .ite (fun _ => .read rfl (.cons ht hr)) fun _ => ?_
    refine (agree_takeMemberName (.cons ht hr)).andThen fun name name' r₁ r₁' h₁ h₁' hname hr₁ => ?_
    refine (agree_memberValue hr₁).andThen fun value _ r₂ r₂' h₂ h₂' hvalue hr₂ => ?_
    subst hvalue
    refine (agree_memberEnd hr₂).andThen fun _ _ r₃ r₃' h₃ h₃' _ hr₃ => ?_
    refine (agree_members hr₃ enumeration).andThen fun ms _ r₄ r₄' h₄ h₄' hms hr₄ => ?_
    subst hms
    rw [hname.value]
    exact .read rfl hr₄
termination_by ts.length
decreasing_by simp at h₁ ⊢; omega

theorem agree_enumeration (hL : ∀ p p', Q p p' → L (some (locate file p)) (some (locate file' p')))
    {ts ts' : List Token} (h : AllAlike Q ts ts') {start start' : Position}
    (hstart : Q start start') :
    (enumeration file start ts).Agree Q (Enumeration.Alike L) (enumeration file' start' ts') := by
  rw [enumeration, enumeration]
  refine (agree_takeKind h _).andThen fun _ _ r₁ r₁' h₁ h₁' _ hr₁ => ?_
  refine (agree_takeName hr₁).andThen fun name name' r₂ r₂' h₂ h₂' hname hr₂ => ?_
  refine (agree_takeKind hr₂ _).andThen fun _ _ r₃ r₃' h₃ h₃' _ hr₃ => ?_
  rw [hname.value]
  refine (agree_members hr₃ _).andThen fun ms _ r₄ r₄' h₄ h₄' hms hr₄ => ?_
  refine (agree_takeKind hr₄ _).andThen fun _ _ r₅ r₅' h₅ h₅' _ hr₅ => ?_
  exact .read ⟨rfl, hms.symm, hL _ _ hstart⟩ hr₅

/-! ## Declarations -/

/-- Where some token is no semicolon, a declaration is read, and then the others. -/
theorem exists_of_declarations_eq_read {ts r : List Token} {t : Token}
    (hr : skipKinds [.mark .semicolon] ts = t :: r) {ds : List Declaration} {rest : List Token}
    {le : rest.length ≤ ts.length} (h : declarations file ts = .read ds rest le) :
    ∃ d r₁ h₁ ds₁ h₂, declaration file (t :: r) = .read d r₁ h₁ ∧
      declarations file r₁ = .read ds₁ rest h₂ ∧ ds = d :: ds₁ := by
  have length_le := length_skipKinds_le [.mark .semicolon] ts
  rw [hr] at length_le
  rw [declarations_of_cons file hr length_le] at h
  obtain ⟨d, r₁, h₁, hd, h⟩ := Part.andThen_eq_read h
  obtain ⟨ds₁, r₂, h₂, hds, h⟩ := Part.andThen_eq_read h
  cases h
  exact ⟨d, r₁, h₁, ds₁, h₂, hd, hds, rfl⟩

/-- Lines come in the same order in both texts. -/
def KeepsLines (Q : Position → Position → Prop) : Prop :=
  ∀ p p' q q', Q p p' → Q q q' → (p'.line < q'.line ↔ p.line < q.line)

theorem passOver_alike (hQ : KeepsLines Q) {p p' : Position} (hp : Q p p') (body : Bool)
    {ts ts' : List Token} (h : AllAlike Q ts ts') (passage : Passage) :
    AllAlike Q (passOver body p.line passage ts) (passOver body p'.line passage ts') := by
  induction h generalizing passage with
  | nil => exact .nil
  | @cons t t' r r' ht hr ih =>
    have hline : decide (p'.line < t'.position.line) = decide (p.line < t.position.line) :=
      decide_eq_decide.mpr (hQ p p' t.position t'.position hp ht.position)
    rw [passOver, passOver, ht.kind, hline]
    dsimp only
    split_ifs
    all_goals first
      | exact ih _
      | exact hr
      | exact .cons ht hr

theorem skipClassWord_alike {keyword keyword' : Token} (hkeyword : keyword.Alike Q keyword')
    {ts ts' : List Token} (h : AllAlike Q ts ts') :
    AllAlike Q (skipClassWord keyword ts) (skipClassWord keyword' ts') := by
  cases h with
  | nil => exact .nil
  | @cons t t' r r' ht hr =>
    rw [skipClassWord, skipClassWord, hkeyword.kind, ht.kind]
    split_ifs
    · exact hr
    · exact .cons ht hr

theorem headIdentifier?_alike {ts ts' : List Token} (h : AllAlike Q ts ts') :
    headIdentifier? ts' = headIdentifier? ts := by
  cases h with
  | nil => rfl
  | cons ht _ => rw [headIdentifier?, headIdentifier?, ht.kind, ht.value]

section

variable (hL : ∀ p p', Q p p' → L (some (locate file p)) (some (locate file' p')))
include hL

theorem agree_otherDeclaration (hQ : KeepsLines Q) {start start' : Position}
    (hstart : Q start start') (kind : String) {keyword keyword' : Token}
    (hkeyword : keyword.Alike Q keyword') {ts ts' : List Token} (h : AllAlike Q ts ts') :
    ((otherDeclaration file start kind keyword ts).map Declaration.other).Agree Q
      (Declaration.Alike L)
      ((otherDeclaration file' start' kind keyword' ts').map Declaration.other) := by
  have hts := skipClassWord_alike hkeyword h
  rw [otherDeclaration, otherDeclaration, headIdentifier?_alike hts]
  exact .read (.other (hL _ _ hstart)) (passOver_alike hQ hkeyword.position _ hts _)

/-- Where lines may come in another order, only what is not passed over is read alike. -/
theorem agree_declaration {ts ts' : List Token} (h : AllAlike Q ts ts')
    (hlines : KeepsLines Q ∨ ∀ o rest le, declaration file ts ≠ .read (.other o) rest le) :
    (declaration file ts).Agree Q (Declaration.Alike L) (declaration file' ts') := by
  have hskip := h.skipKinds modifiers
  cases h with
  | nil => exact .fault .nil
  | @cons first first' r r' hfirst hr =>
    have hstart := hfirst.position
    cases hr₀ : skipKinds modifiers (first :: r) with
    | nil =>
      rw [hr₀] at hskip
      rw [declaration_of_nil file hr₀, declaration_of_nil file' hskip.eq_nil]
      exact .fault .nil
    | cons t r₁ =>
      rw [hr₀] at hskip
      obtain ⟨t', r₁', hr₀', ht, hr₁⟩ := hskip.exists_cons
      have le := Nat.pred_le_pred (length_skipKinds_le modifiers (first :: r))
      have le' := Nat.pred_le_pred (length_skipKinds_le modifiers (first' :: r'))
      rw [hr₀] at le
      rw [hr₀'] at le'
      rw [declaration_of_cons file hr₀ le] at hlines ⊢
      rw [declaration_of_cons file' hr₀' le', ht.kind, hr₁.headKind_eq, ht.shown]
      split_ifs at hlines ⊢
      · exact ((agree_interface hL (.cons ht hr₁) hstart).map fun _ _ => .record).weaken _ _
      · exact ((agree_enumeration hL (.cons ht hr₁) hstart).map fun _ _ => .enumeration).weaken _ _
      · exact ((agree_enumeration hL hr₁ hstart).map fun _ _ => .enumeration).weaken _ _
      · cases hkind : otherKind? t.kind with
        | some kind =>
          rw [hkind] at hlines
          obtain hQ | hdata := hlines
          · exact (agree_otherDeclaration hL hQ hstart kind ht hr₁).weaken _ _
          · exact absurd rfl (hdata _ _ _)
        | none => exact .fault (.cons ht hr₁)

/-- Declarations are read alike if lines come in the same order, or if none is passed over. -/
theorem agree_declarations {ts ts' : List Token} (h : AllAlike Q ts ts')
    (hlines : KeepsLines Q ∨
      ∃ ds rest le, declarations file ts = .read ds rest le ∧ ∀ d ∈ ds, d.IsData) :
    (declarations file ts).Agree Q (List.Forall₂ (Declaration.Alike L))
      (declarations file' ts') := by
  have hskip := h.skipKinds [.mark .semicolon]
  have length_le := length_skipKinds_le [.mark .semicolon] ts
  have length_le' := length_skipKinds_le [.mark .semicolon] ts'
  cases hr₀ : skipKinds [.mark .semicolon] ts with
  | nil =>
    rw [hr₀] at hskip
    rw [declarations_of_nil file hr₀, declarations_of_nil file' hskip.eq_nil]
    exact .read .nil .nil
  | cons t r =>
    rw [hr₀] at hskip length_le
    obtain ⟨t', r', hr₀', -, -⟩ := hskip.exists_cons
    rw [hr₀'] at hskip length_le'
    have hfirst : KeepsLines Q ∨ ∀ o rest le, declaration file (t :: r) ≠ .read (.other o) rest le
        := by
      refine hlines.imp_right ?_
      rintro ⟨ds, rest, le, hread, hdata⟩ o rest' le' ho
      obtain ⟨d, r₁, h₁, ds₁, h₂, hd, -, rfl⟩ := exists_of_declarations_eq_read hr₀ hread
      cases hd.symm.trans ho
      exact hdata _ List.mem_cons_self
    have hagree := agree_declaration hL hskip hfirst
    rw [declarations_of_cons file hr₀ length_le, declarations_of_cons file' hr₀' length_le']
    cases hd : declaration file (t :: r) with
    | fault cause rest =>
      rw [hd] at hagree
      obtain ⟨rest', hd', hrest⟩ := hagree.exists_of_fault
      rw [hd']
      exact .fault hrest
    | read d r₁ h₁ =>
      rw [hd] at hagree
      obtain ⟨d', r₁', h₁', hd', halike, hr₁⟩ := hagree.exists_of_read
      have hshorter : r₁.length < ts.length := by
        rw [List.length_cons] at h₁ length_le
        omega
      have hothers : KeepsLines Q ∨
          ∃ ds rest le, declarations file r₁ = .read ds rest le ∧ ∀ d ∈ ds, d.IsData := by
        refine hlines.imp_right ?_
        rintro ⟨ds, rest, le, hread, hdata⟩
        obtain ⟨_, _, _, ds₁, h₂, hd₁, hds₁, rfl⟩ := exists_of_declarations_eq_read hr₀ hread
        cases hd.symm.trans hd₁
        exact ⟨ds₁, rest, h₂, hds₁, fun d hd => hdata d (List.mem_cons_of_mem _ hd)⟩
      rw [hd', Part.andThen, Part.andThen]
      exact (agree_declarations hr₁ hothers).andThen fun ds ds' r₂ r₂' h₂ h₂' hds hr₂ =>
        .read (.cons halike hds) hr₂
termination_by ts.length
decreasing_by exact hshorter

end

end SchemaGrammar.Source
