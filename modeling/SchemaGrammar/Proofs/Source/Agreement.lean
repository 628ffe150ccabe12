import Mathlib.Data.List.Forall2
import SchemaGrammar.Source.Enumerations

/-!
# Reading does not depend on places

Two lists of tokens that differ in places only are read alike: parts of them give the same values,
but for places, and leave tokens that differ in places only, or they have a fault of the same cause.
How the places are related is a parameter.
-/
namespace SchemaGrammar.Source

variable {Q : Position → Position → Prop}

structure Token.Alike (Q : Position → Position → Prop) (t t' : Token) : Prop where
  kind : t'.kind = t.kind
  value : t'.value = t.value
  position : Q t.position t'.position

theorem Token.Alike.shown {t t' : Token} (h : t.Alike Q t') : t'.shown = t.shown := by
  rw [Token.shown, h.kind, h.value, Token.shown]

abbrev AllAlike (Q : Position → Position → Prop) (ts ts' : List Token) : Prop :=
  List.Forall₂ (Token.Alike Q) ts ts'

/-- Two parts give values related by `R` or have the same cause, and leave tokens that are alike. -/
inductive Part.Agree {α : Type} {m n : Nat} (Q : Position → Position → Prop) (R : α → α → Prop) :
    Part α m → Part α n → Prop
  | read {a a' rest rest' h h'} : R a a' → AllAlike Q rest rest' →
      Agree Q R (.read a rest h) (.read a' rest' h')
  | fault {cause rest rest'} : AllAlike Q rest rest' →
      Agree Q R (.fault cause rest) (.fault cause rest')

/-- Reading on gives a value only if the part before does. -/
theorem Part.andThen_eq_read {α β : Type} {m n : Nat} {p : Part α m}
    {next : α → (ts : List Token) → ts.length ≤ m → Part β n} {b : β} {rest : List Token}
    {le : rest.length ≤ n} (h : p.andThen next = .read b rest le) :
    ∃ a ts h', p = .read a ts h' ∧ next a ts h' = .read b rest le := by
  cases p with
  | read a ts h' => exact ⟨a, ts, h', rfl, h⟩
  | fault cause ts => cases h

namespace Part.Agree

variable {α β : Type} {k l m n : Nat} {R : α → α → Prop} {R' : β → β → Prop}

theorem exists_of_read {a : α} {rest : List Token} {h : rest.length ≤ k} {p' : Part α l}
    (hp : Agree Q R (.read a rest h) p') :
    ∃ a' rest' h', p' = .read a' rest' h' ∧ R a a' ∧ AllAlike Q rest rest' := by
  cases hp with
  | read ha hrest => exact ⟨_, _, _, rfl, ha, hrest⟩

theorem exists_of_fault {cause : FaultCause} {rest : List Token} {p' : Part α l}
    (hp : Agree Q R (.fault cause rest : Part α k) p') :
    ∃ rest', p' = .fault cause rest' ∧ AllAlike Q rest rest' := by
  cases hp with
  | fault hrest => exact ⟨_, rfl, hrest⟩

theorem andThen {p : Part α k} {p' : Part α l}
    {next : α → (ts : List Token) → ts.length ≤ k → Part β m}
    {next' : α → (ts : List Token) → ts.length ≤ l → Part β n} (hp : Agree Q R p p')
    (hnext : ∀ a a' ts ts' h h', R a a' → AllAlike Q ts ts' →
      Agree Q R' (next a ts h) (next' a' ts' h')) :
    Agree Q R' (p.andThen next) (p'.andThen next') := by
  cases hp with
  | read ha hrest => exact hnext _ _ _ _ _ _ ha hrest
  | fault hrest => exact .fault hrest

theorem weaken {p : Part α k} {p' : Part α l} (hp : Agree Q R p p') (h : k ≤ m) (h' : l ≤ n) :
    Agree Q R (p.weaken h) (p'.weaken h') :=
  hp.andThen fun _ _ _ _ _ _ ha hrest => .read ha hrest

theorem map {f f' : α → β} {p : Part α k} {p' : Part α l} (hp : Agree Q R p p')
    (hf : ∀ a a', R a a' → R' (f a) (f' a')) : Agree Q R' (p.map f) (p'.map f') :=
  hp.andThen fun _ _ _ _ _ _ ha hrest => .read (hf _ _ ha) hrest

theorem ite {c : Prop} [Decidable c] {p q : Part α m} {p' q' : Part α n}
    (hp : c → Agree Q R p p') (hq : ¬ c → Agree Q R q q') :
    Agree Q R (if c then p else q) (if c then p' else q') := by
  by_cases hc : c
  · rw [if_pos hc, if_pos hc]
    exact hp hc
  · rw [if_neg hc, if_neg hc]
    exact hq hc

end Part.Agree

namespace AllAlike

variable {ts ts' : List Token}

theorem eq_nil (h : AllAlike Q [] ts') : ts' = [] := List.forall₂_nil_left_iff.mp h

theorem exists_cons {t : Token} {r : List Token} (h : AllAlike Q (t :: r) ts') :
    ∃ t' r', ts' = t' :: r' ∧ t.Alike Q t' ∧ AllAlike Q r r' := by
  obtain ⟨t', r', ht, hr, heq⟩ := List.forall₂_cons_left_iff.mp h
  exact ⟨t', r', heq, ht, hr⟩

theorem exists_concat (h : AllAlike Q ts ts') (hne : ts ≠ []) :
    ∃ r t r' t', ts = r ++ [t] ∧ ts' = r' ++ [t'] ∧ AllAlike Q r r' ∧ t.Alike Q t' := by
  induction h with
  | nil => exact absurd rfl hne
  | @cons t t' ts ts' ht hts ih =>
    cases hts with
    | nil => exact ⟨[], t, [], t', rfl, rfl, .nil, ht⟩
    | cons =>
      obtain ⟨r, u, r', u', hr, hr', hrs, hu⟩ := ih (List.cons_ne_nil _ _)
      exact ⟨t :: r, u, t' :: r', u', congrArg _ hr, congrArg _ hr', .cons ht hrs, hu⟩

theorem headKind_eq (h : AllAlike Q ts ts') : headKind ts' = headKind ts := by
  cases h with
  | nil => rfl
  | cons ht _ => exact ht.kind

theorem skipKinds (h : AllAlike Q ts ts') (kinds : List TokenKind) :
    AllAlike Q (skipKinds kinds ts) (skipKinds kinds ts') := by
  induction h with
  | nil => exact .nil
  | @cons t t' ts ts' ht hts ih =>
    rw [Source.skipKinds, Source.skipKinds, List.dropWhile_cons, List.dropWhile_cons, ht.kind]
    by_cases hkind : kinds.contains t.kind = true
    · rw [if_pos hkind, if_pos hkind]
      exact ih
    · rw [if_neg hkind, if_neg hkind]
      exact .cons ht hts

theorem skipBar (h : AllAlike Q ts ts') : AllAlike Q (skipBar ts) (skipBar ts') := by
  cases h with
  | nil => exact .nil
  | @cons t t' _ _ ht hts =>
    rw [Source.skipBar, Source.skipBar, ht.kind]
    by_cases hbar : t.kind = .mark .bar
    · rw [if_pos hbar, if_pos hbar]
      exact hts
    · rw [if_neg hbar, if_neg hbar]
      exact .cons ht hts

theorem skipReadonly (h : AllAlike Q ts ts') :
    AllAlike Q (skipReadonly ts) (skipReadonly ts') := by
  cases h with
  | nil => exact .nil
  | @cons t t' _ _ ht hts =>
    rw [Source.skipReadonly, Source.skipReadonly, ht.kind, headKind_eq hts]
    split_ifs
    · exact hts
    · exact .cons ht hts

theorem tail (h : AllAlike Q ts ts') : AllAlike Q ts.tail ts'.tail := by
  cases h with
  | nil => exact .nil
  | cons _ hts => exact hts

end AllAlike

/-! ## Single tokens -/

theorem agree_takeKind {ts ts' : List Token} (h : AllAlike Q ts ts') (kind : TokenKind) :
    (takeKind kind ts).Agree Q (Token.Alike Q) (takeKind kind ts') := by
  cases h with
  | nil => exact .fault .nil
  | @cons t t' r r' ht hr =>
    rw [takeKind, takeKind, ht.kind, ht.shown]
    refine .ite (fun _ => ?_) fun _ => ?_
    · exact .read ht hr
    · exact .fault (.cons ht hr)

theorem agree_takeName {ts ts' : List Token} (h : AllAlike Q ts ts') :
    (takeName ts).Agree Q (Token.Alike Q) (takeName ts') := by
  cases h with
  | nil => exact .fault .nil
  | @cons t t' r r' ht hr =>
    rw [takeName, takeName, ht.kind, ht.shown]
    refine .ite (fun _ => ?_) fun _ => ?_
    · exact .read ht hr
    · exact .fault (.cons ht hr)

theorem agree_takeMemberName {ts ts' : List Token} (h : AllAlike Q ts ts') :
    (takeMemberName ts).Agree Q (Token.Alike Q) (takeMemberName ts') := by
  cases h with
  | nil => exact .fault .nil
  | @cons t t' r r' ht hr =>
    rw [takeMemberName, takeMemberName, ht.kind]
    refine .ite (fun _ => ?_) fun _ => ?_
    · exact .read ht hr
    · exact agree_takeName (.cons ht hr)

/-! ## Types -/

theorem agree_dottedNames {ts ts' : List Token} (h : AllAlike Q ts ts') (spelling : String) :
    (dottedNames spelling ts).Agree Q Eq (dottedNames spelling ts') := by
  cases h with
  | nil =>
    rw [dottedNames]
    exact .read rfl .nil
  | @cons t t' r r' ht hr =>
    rw [dottedNames, dottedNames, ht.kind]
    refine .ite (fun _ => ?_) fun _ => ?_
    · refine (agree_takeName hr).andThen fun name name' r₁ r₁' h₁ h₁' hname hr₁ => ?_
      rw [hname.value]
      exact (agree_dottedNames hr₁ _).weaken _ _
    · exact .read rfl (.cons ht hr)
termination_by ts.length
decreasing_by simp; omega

theorem agree_arrayMarks {ts ts' : List Token} (h : AllAlike Q ts ts') (spelling : String) :
    (arrayMarks spelling ts).Agree Q Eq (arrayMarks spelling ts') := by
  cases h with
  | nil =>
    rw [arrayMarks]
    exact .read rfl .nil
  | @cons t t' r r' ht hr =>
    rw [arrayMarks, arrayMarks, ht.kind]
    refine .ite (fun _ => ?_) fun _ => ?_
    · refine (agree_takeKind hr _).andThen fun _ _ r₁ r₁' h₁ h₁' _ hr₁ => ?_
      exact (agree_arrayMarks hr₁ _).weaken _ _
    · exact .read rfl (.cons ht hr)
termination_by ts.length
decreasing_by simp; omega

mutual

theorem agree_typeExpr {ts ts' : List Token} (h : AllAlike Q ts ts') (owner : String) :
    (typeExpr owner ts).Agree Q Eq (typeExpr owner ts') := by
  rw [typeExpr, typeExpr]
  refine (agree_typeAtom h.skipBar owner).andThen fun first _ r₁ r₁' h₁ h₁' hfirst hr₁ => ?_
  subst hfirst
  refine (agree_alternatives hr₁ owner).andThen fun others _ r₂ r₂' h₂ h₂' hothers hr₂ => ?_
  subst hothers
  rw [hr₂.headKind_eq]
  refine .ite (fun _ => ?_) fun _ => ?_
  · exact .fault hr₂
  · exact .read rfl hr₂
termination_by 3 * ts.length + 2
decreasing_by
  · have := length_skipBar_le ts
    omega
  · have := length_skipBar_le ts
    omega

theorem agree_alternatives {ts ts' : List Token} (h : AllAlike Q ts ts') (owner : String) :
    (alternatives owner ts).Agree Q Eq (alternatives owner ts') := by
  cases h with
  | nil =>
    rw [alternatives]
    exact .read rfl .nil
  | @cons t t' r r' ht hr =>
    rw [alternatives, alternatives, ht.kind]
    refine .ite (fun _ => ?_) fun _ => ?_
    · refine (agree_typeAtom hr owner).andThen fun spelling _ r₁ r₁' h₁ h₁' hspelling hr₁ => ?_
      subst hspelling
      refine (agree_alternatives hr₁ owner).andThen
        fun spellings _ r₂ r₂' h₂ h₂' hspellings hr₂ => ?_
      subst hspellings
      exact .read rfl hr₂
    · exact .read rfl (.cons ht hr)
termination_by 3 * ts.length
decreasing_by
  · simp
    omega
  · simp
    omega

theorem agree_typeAtom {ts ts' : List Token} (h : AllAlike Q ts ts') (owner : String) :
    (typeAtom owner ts).Agree Q Eq (typeAtom owner ts') := by
  rw [typeAtom, typeAtom, h.headKind_eq]
  cases refusedType? owner (headKind ts) with
  | some cause => exact .fault h
  | none =>
    refine (agree_takeName h).andThen fun name name' r₁ r₁' h₁ h₁' hname hr₁ => ?_
    rw [hname.value]
    refine (agree_dottedNames hr₁ _).andThen fun spelling _ r₂ r₂' h₂ h₂' hspelling hr₂ => ?_
    subst hspelling
    refine (agree_typeArguments hr₂ owner spelling).andThen
      fun spelling _ r₃ r₃' h₃ h₃' hspelling hr₃ => ?_
    subst hspelling
    exact (agree_arrayMarks hr₃ _).weaken _ _
termination_by 3 * ts.length + 1
decreasing_by omega

theorem agree_typeArguments {ts ts' : List Token} (h : AllAlike Q ts ts')
    (owner spelling : String) :
    (typeArguments owner spelling ts).Agree Q Eq (typeArguments owner spelling ts') := by
  cases h with
  | nil =>
    rw [typeArguments]
    exact .read rfl .nil
  | @cons t t' r r' ht hr =>
    rw [typeArguments, typeArguments, ht.kind]
    refine .ite (fun _ => ?_) fun _ => ?_
    · refine (agree_typeExpr hr owner).andThen fun first _ r₁ r₁' h₁ h₁' hfirst hr₁ => ?_
      subst hfirst
      refine (agree_moreArguments hr₁ owner).andThen fun others _ r₂ r₂' h₂ h₂' hothers hr₂ => ?_
      subst hothers
      refine (agree_takeKind hr₂ _).andThen fun _ _ r₃ r₃' h₃ h₃' _ hr₃ => ?_
      exact .read rfl hr₃
    · exact .read rfl (.cons ht hr)
termination_by 3 * ts.length
decreasing_by
  · simp
    omega
  · simp
    omega

theorem agree_moreArguments {ts ts' : List Token} (h : AllAlike Q ts ts') (owner : String) :
    (moreArguments owner ts).Agree Q Eq (moreArguments owner ts') := by
  cases h with
  | nil =>
    rw [moreArguments]
    exact .read rfl .nil
  | @cons t t' r r' ht hr =>
    rw [moreArguments, moreArguments, ht.kind]
    refine .ite (fun _ => ?_) fun _ => ?_
    · refine (agree_typeExpr hr owner).andThen fun type _ r₁ r₁' h₁ h₁' htype hr₁ => ?_
      subst htype
      refine (agree_moreArguments hr₁ owner).andThen fun types _ r₂ r₂' h₂ h₂' htypes hr₂ => ?_
      subst htypes
      exact .read rfl hr₂
    · exact .read rfl (.cons ht hr)
termination_by 3 * ts.length
decreasing_by
  · simp
    omega
  · simp
    omega

end

end SchemaGrammar.Source
