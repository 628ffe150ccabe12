import SchemaGrammar.Proofs.Source.Relocation

/-!
# Tokens that follow

A part that ends before the tokens do is read in the same way when more tokens follow. An interface
and an enumeration close with a brace, so they are read in the same way whatever follows them.
-/
namespace SchemaGrammar.Source

/-- What is read as `p` from the tokens `ts` is read as `p'` when `more` follows. Unless the part is
closed, this is said only where some token is left. -/
def Part.Grows {α : Type} {m n : Nat} (closed : Prop) (more ts : List Token) (p : Part α m)
    (p' : ts ≠ [] → Part α n) : Prop :=
  ∀ a rest le, p = .read a rest le → closed ∨ rest ≠ [] →
    ∃ hts le', p' hts = .read a (rest ++ more) le'

namespace Part.Grows

variable {α β : Type} {k l m n : Nat} {closed : Prop} {more ts : List Token} {p : Part α k}
  {p' : ts ≠ [] → Part α l}

theorem fault {cause : FaultCause} {rest : List Token} :
    Grows closed more ts (.fault cause rest : Part α k) p' := by
  intro a rest le h
  cases h

/-- Nothing is said of a part that leaves no token and is not closed. -/
theorem ended {a : α} {le : [].length ≤ k} : Grows False more ts (.read a [] le) p' := by
  rintro b rest le' h (hclosed | hrest)
  · exact hclosed.elim
  · cases h
    exact absurd rfl hrest

theorem of_nil {p : Part α 0} : Grows False more ts p p' := by
  rintro a rest le - (hclosed | hrest)
  · exact hclosed.elim
  · exact absurd (List.eq_nil_of_length_eq_zero (Nat.le_zero.mp le)) hrest

theorem read {a : α} {t : Token} {r rest : List Token} {le : rest.length ≤ k}
    {le' : t :: r ≠ [] → (rest ++ more).length ≤ l} :
    Grows closed more (t :: r) (.read a rest le) fun hts => .read a (rest ++ more) (le' hts) := by
  intro b rest' le'' h hrest
  cases h
  exact ⟨by simp, le' (by simp), rfl⟩

/-- A value may be given for what is read, whatever is left. -/
theorem given {a : α} {r : List Token} {le : r.length ≤ k}
    {le' : r ≠ [] → (r ++ more).length ≤ l} :
    Grows False more r (.read a r le) fun hr => .read a (r ++ more) (le' hr) := by
  cases r with
  | nil => exact .ended
  | cons t r => exact .read

theorem opened (hp : Grows closed more ts p p') : Grows False more ts p p' := by
  rintro a rest le h (hclosed | hrest)
  · exact hclosed.elim
  · exact hp a rest le h (.inr hrest)

/-- Tokens before those that a part is read from do not matter. -/
theorem behind {ts' : List Token} {p' : Part α l} (hp : Grows closed more ts p fun _ => p')
    (hts : ts ≠ [] → ts' ≠ []) : Grows closed more ts' p fun _ => p' := by
  intro a rest le h hrest
  obtain ⟨hne, hp'⟩ := hp a rest le h hrest
  exact ⟨hts hne, hp'⟩

theorem cons {t : Token} {p' : Part α l} (hp : Grows closed more ts p fun _ => p') :
    Grows closed more (t :: ts) p fun _ => p' :=
  hp.behind fun _ => by simp

theorem andThen {next : α → (ts : List Token) → ts.length ≤ k → Part β m}
    {next' : ts ≠ [] → α → (ts : List Token) → ts.length ≤ l → Part β n}
    (hp : Grows False more ts p p')
    (hnext : ∀ a r h (h' : r ≠ [] → ts ≠ [] ∧ (r ++ more).length ≤ l),
      Grows closed more r (next a r h) fun hr => next' (h' hr).1 a (r ++ more) (h' hr).2) :
    Grows closed more ts (p.andThen next) fun hts => (p' hts).andThen (next' hts) := by
  intro b rest le hread hrest
  obtain ⟨a, r, h, rfl, hb⟩ := andThen_eq_read hread
  have h' : r ≠ [] → ts ≠ [] ∧ (r ++ more).length ≤ l := by
    intro hr
    obtain ⟨hts, le', -⟩ := hp a r h rfl (.inr hr)
    exact ⟨hts, le'⟩
  obtain ⟨hr, le', hb'⟩ := hnext a r h h' b rest le hb hrest
  obtain ⟨hts, hle, ha'⟩ := hp a r h rfl (.inr hr)
  refine ⟨hts, le', ?_⟩
  dsimp only at hb' ⊢
  rw [ha']
  exact hb'

/-- A part that does no more than give another value is as closed as what it reads. -/
theorem andThen_read (f : α → β) {h : ∀ {r : List Token}, r.length ≤ k → r.length ≤ m}
    {h' : ts ≠ [] → ∀ {r : List Token}, r.length ≤ l → r.length ≤ n}
    (hp : Grows closed more ts p p') :
    Grows closed more ts (p.andThen fun a r hr => .read (f a) r (h hr)) fun hts =>
      (p' hts).andThen fun a r hr => .read (f a) r (h' hts hr) := by
  intro b rest le hread hrest
  obtain ⟨a, r, hr, rfl, hb⟩ := andThen_eq_read hread
  cases hb
  obtain ⟨hts, le', ha'⟩ := hp a rest hr rfl hrest
  refine ⟨hts, h' hts le', ?_⟩
  dsimp only
  rw [ha']
  rfl

theorem weaken (hp : Grows closed more ts p p') {h : k ≤ m} {h' : ts ≠ [] → l ≤ n} :
    Grows closed more ts (p.weaken h) fun hts => (p' hts).weaken (h' hts) :=
  hp.andThen_read id

theorem map (hp : Grows closed more ts p p') (f : α → β) :
    Grows closed more ts (p.map f) fun hts => (p' hts).map f :=
  hp.andThen_read f

theorem ite {c : Prop} [Decidable c] {p q : Part α k} {p' q' : ts ≠ [] → Part α l}
    (hp : c → Grows closed more ts p p') (hq : ¬ c → Grows closed more ts q q') :
    Grows closed more ts (if c then p else q) fun hts => if c then p' hts else q' hts := by
  by_cases hc : c
  · simp only [if_pos hc]
    exact hp hc
  · simp only [if_neg hc]
    exact hq hc

/-- What is closed is read in the same way whatever follows. -/
theorem exists_of_read {p' : Part α l} (hp : Grows True more ts p fun _ => p') {a : α}
    {rest : List Token} {le : rest.length ≤ k} (h : p = .read a rest le) :
    ∃ le', p' = .read a (rest ++ more) le' := by
  obtain ⟨_, hread⟩ := hp a rest le h (.inl trivial)
  exact hread

end Part.Grows

variable {file : Path} {more : List Token}

/-! ## Single tokens -/

theorem grows_takeKind (kind : TokenKind) (ts : List Token) :
    (takeKind kind ts).Grows True more ts fun _ => takeKind kind (ts ++ more) := by
  cases ts with
  | nil => exact .fault
  | cons t r =>
    rw [takeKind, List.cons_append, takeKind]
    exact .ite (fun _ => .read) fun _ => .fault

theorem grows_takeName (ts : List Token) :
    (takeName ts).Grows True more ts fun _ => takeName (ts ++ more) := by
  cases ts with
  | nil => exact .fault
  | cons t r =>
    rw [takeName, List.cons_append, takeName]
    exact .ite (fun _ => .read) fun _ => .fault

theorem grows_takeMemberName (ts : List Token) :
    (takeMemberName ts).Grows True more ts fun _ => takeMemberName (ts ++ more) := by
  cases ts with
  | nil => exact .fault
  | cons t r =>
    rw [takeMemberName, List.cons_append, takeMemberName]
    exact .ite (fun _ => .read) fun _ => grows_takeName (t :: r)

/-! ## Types -/

theorem grows_dottedNames (spelling : String) (ts : List Token) :
    (dottedNames spelling ts).Grows False more ts fun _ => dottedNames spelling (ts ++ more) := by
  cases ts with
  | nil => exact .of_nil
  | cons t r =>
    rw [dottedNames, List.cons_append, dottedNames]
    refine .ite (fun _ => ?_) fun _ => .read
    refine Part.Grows.cons ?_
    refine (grows_takeName r).opened.andThen fun name r₁ h₁ h₁' => ?_
    exact (grows_dottedNames _ r₁).weaken
termination_by ts.length
decreasing_by simp; omega

theorem grows_arrayMarks (spelling : String) (ts : List Token) :
    (arrayMarks spelling ts).Grows False more ts fun _ => arrayMarks spelling (ts ++ more) := by
  cases ts with
  | nil => exact .of_nil
  | cons t r =>
    rw [arrayMarks, List.cons_append, arrayMarks]
    refine .ite (fun _ => ?_) fun _ => .read
    refine Part.Grows.cons ?_
    refine (grows_takeKind _ r).opened.andThen fun _ r₁ h₁ h₁' => ?_
    exact (grows_arrayMarks _ r₁).weaken
termination_by ts.length
decreasing_by simp; omega

theorem skipBar_append {ts : List Token} (h : ts ≠ []) :
    skipBar (ts ++ more) = skipBar ts ++ more := by
  cases ts with
  | nil => exact absurd rfl h
  | cons t r =>
    rw [List.cons_append, skipBar, skipBar]
    split <;> rfl

mutual

theorem grows_typeExpr (owner : String) (ts : List Token) :
    (typeExpr owner ts).Grows False more ts fun _ => typeExpr owner (ts ++ more) := by
  cases ts with
  | nil => exact .of_nil
  | cons t r =>
    have hfirst : (typeAtom owner (skipBar (t :: r))).Grows False more (t :: r) fun _ =>
        typeAtom owner (skipBar (t :: r ++ more)) := by
      rw [skipBar_append (by simp)]
      exact (grows_typeAtom owner (skipBar (t :: r))).behind fun _ => by simp
    rw [typeExpr, typeExpr]
    refine hfirst.andThen fun first r₁ h₁ h₁' => ?_
    refine (grows_alternatives owner r₁).andThen fun others r₂ h₂ h₂' => ?_
    cases r₂ with
    | nil =>
      rw [if_neg (by rintro ⟨⟩)]
      exact .ended
    | cons t₂ r₂ => exact .ite (fun _ => .fault) fun _ => .read
termination_by 3 * ts.length + 2
decreasing_by
  · have := length_skipBar_le (t :: r)
    omega
  · have := length_skipBar_le (t :: r)
    omega

theorem grows_alternatives (owner : String) (ts : List Token) :
    (alternatives owner ts).Grows False more ts fun _ => alternatives owner (ts ++ more) := by
  cases ts with
  | nil => exact .of_nil
  | cons t r =>
    rw [alternatives, List.cons_append, alternatives]
    refine .ite (fun _ => ?_) fun _ => .read
    refine Part.Grows.cons ?_
    refine (grows_typeAtom owner r).andThen fun spelling r₁ h₁ h₁' => ?_
    refine (grows_alternatives owner r₁).andThen fun spellings r₂ h₂ h₂' => ?_
    exact .given
termination_by 3 * ts.length
decreasing_by
  · simp
    omega
  · simp
    omega

theorem grows_typeAtom (owner : String) (ts : List Token) :
    (typeAtom owner ts).Grows False more ts fun _ => typeAtom owner (ts ++ more) := by
  cases ts with
  | nil => exact .of_nil
  | cons t r =>
    rw [typeAtom, typeAtom]
    have hhead : headKind (t :: r ++ more) = headKind (t :: r) := rfl
    rw [hhead]
    cases refusedType? owner (headKind (t :: r)) with
    | some cause => exact .fault
    | none =>
      refine (grows_takeName (t :: r)).opened.andThen fun name r₁ h₁ h₁' => ?_
      refine (grows_dottedNames _ r₁).andThen fun spelling r₂ h₂ h₂' => ?_
      refine (grows_typeArguments owner spelling r₂).andThen fun spelling r₃ h₃ h₃' => ?_
      exact (grows_arrayMarks spelling r₃).weaken
termination_by 3 * ts.length + 1
decreasing_by
  simp at h₁ h₂ ⊢
  omega

theorem grows_typeArguments (owner spelling : String) (ts : List Token) :
    (typeArguments owner spelling ts).Grows False more ts fun _ =>
      typeArguments owner spelling (ts ++ more) := by
  cases ts with
  | nil => exact .of_nil
  | cons t r =>
    rw [typeArguments, List.cons_append, typeArguments]
    refine .ite (fun _ => ?_) fun _ => .read
    refine Part.Grows.cons ?_
    refine (grows_typeExpr owner r).andThen fun first r₁ h₁ h₁' => ?_
    refine (grows_moreArguments owner r₁).andThen fun others r₂ h₂ h₂' => ?_
    refine (grows_takeKind _ r₂).opened.andThen fun _ r₃ h₃ h₃' => ?_
    exact .given
termination_by 3 * ts.length
decreasing_by
  · simp
    omega
  · simp
    omega

theorem grows_moreArguments (owner : String) (ts : List Token) :
    (moreArguments owner ts).Grows False more ts fun _ => moreArguments owner (ts ++ more) := by
  cases ts with
  | nil => exact .of_nil
  | cons t r =>
    rw [moreArguments, List.cons_append, moreArguments]
    refine .ite (fun _ => ?_) fun _ => .read
    refine Part.Grows.cons ?_
    refine (grows_typeExpr owner r).andThen fun type r₁ h₁ h₁' => ?_
    refine (grows_moreArguments owner r₁).andThen fun types r₂ h₂ h₂' => ?_
    exact .given
termination_by 3 * ts.length
decreasing_by
  · simp
    omega
  · simp
    omega

end

/-! ## Interfaces -/

theorem grows_moreParameters (depth : Nat) (ts : List Token) :
    (moreParameters depth ts).Grows False more ts fun _ => moreParameters depth (ts ++ more) := by
  cases ts with
  | nil => exact .of_nil
  | cons t r =>
    rw [moreParameters, List.cons_append, moreParameters]
    refine .ite (fun _ => ?_) fun _ => .ite (fun _ => .ite (fun _ => .read) fun _ => ?_) fun _ =>
      .ite (fun _ => ?_) fun _ => ?_
    · exact (grows_moreParameters _ r).cons.weaken
    · exact (grows_moreParameters _ r).cons.weaken
    · refine (grows_takeName r).opened.cons.andThen fun name r₁ h₁ h₁' => ?_
      exact ((grows_moreParameters 0 r₁).map _).weaken
    · exact (grows_moreParameters _ r).cons.weaken
termination_by ts.length
decreasing_by
  all_goals simp
  all_goals omega

theorem grows_typeParameters (ts : List Token) :
    (typeParameters ts).Grows False more ts fun _ => typeParameters (ts ++ more) := by
  cases ts with
  | nil => exact .of_nil
  | cons t r =>
    rw [typeParameters, List.cons_append, typeParameters]
    refine .ite (fun _ => ?_) fun _ => .read
    refine (grows_takeName r).opened.cons.andThen fun name r₁ h₁ h₁' => ?_
    exact ((grows_moreParameters 0 r₁).map _).weaken

theorem skipReadonly_append {t t' : Token} {r : List Token} :
    skipReadonly (t :: t' :: r ++ more) = skipReadonly (t :: t' :: r) ++ more := by
  have hhead : headKind (t' :: r ++ more) = headKind (t' :: r) := rfl
  rw [List.cons_append, skipReadonly, skipReadonly, hhead]
  split <;> rfl

theorem skipReadonly_ne_nil {t t' : Token} {r : List Token} :
    skipReadonly (t :: t' :: r) ≠ [] := by
  rw [skipReadonly]
  split <;> simp

theorem skipKinds_append {kinds : List TokenKind} {ts : List Token}
    (h : skipKinds kinds ts ≠ []) : skipKinds kinds (ts ++ more) = skipKinds kinds ts ++ more := by
  rw [skipKinds, List.dropWhile_append, if_neg]
  · rfl
  · rw [List.isEmpty_iff]
    exact h

theorem headKind_append {ts : List Token} (h : ts ≠ []) :
    headKind (ts ++ more) = headKind ts := by
  cases ts with
  | nil => exact absurd rfl h
  | cons t r => rfl

theorem grows_property (file : Path) (record : String) (ts : List Token) :
    (property file record ts).Grows False more ts fun _ => property file record (ts ++ more) := by
  -- whether a `readonly` is skipped is told by the token after it, so one token is not enough
  match ts with
  | [] => exact .of_nil
  | [t] => exact .of_nil
  | t :: t' :: r =>
    have hhead : headKind (skipReadonly (t :: t' :: r ++ more)) =
        headKind (skipReadonly (t :: t' :: r)) := by
      rw [skipReadonly_append, headKind_append skipReadonly_ne_nil]
    have hname : (takeMemberName (skipReadonly (t :: t' :: r))).Grows False more (t :: t' :: r)
        fun _ => takeMemberName (skipReadonly (t :: t' :: r ++ more)) := by
      rw [skipReadonly_append]
      exact (grows_takeMemberName _).opened.behind fun _ => by simp
    rw [property, property]
    dsimp only
    rw [hhead]
    refine .ite (fun _ => .fault) fun _ => ?_
    refine hname.andThen fun name r₁ h₁ h₁' => ?_
    cases r₁ with
    | nil => exact .fault
    | cons t₁ r₁ =>
      have hhead₁ : headKind (t₁ :: r₁ ++ more) = headKind (t₁ :: r₁) := rfl
      rw [hhead₁]
      cases refusedProperty? (record ++ "." ++ name.value) (headKind (t₁ :: r₁)) with
      | some cause => exact .fault
      | none =>
        refine (grows_typeExpr _ r₁).cons.andThen fun type r₂ h₂ h₂' => ?_
        exact .given

theorem grows_properties (file : Path) (record : String) (ts : List Token) :
    (properties file record ts).Grows False more ts fun _ =>
      properties file record (ts ++ more) := by
  cases ts with
  | nil => exact .of_nil
  | cons t r =>
    rw [properties, List.cons_append, properties]
    refine .ite (fun _ => .read) fun _ => ?_
    refine (grows_property file record (t :: r)).andThen fun p r₁ h₁ h₁' => ?_
    have hnext : (properties file record (skipKinds [.mark .semicolon, .mark .comma] r₁)).Grows
        False more r₁ fun _ =>
          properties file record (skipKinds [.mark .semicolon, .mark .comma] (r₁ ++ more)) := by
      -- where separators are the last tokens, no closing brace is found and nothing is read
      by_cases hskip : skipKinds [.mark .semicolon, .mark .comma] r₁ = []
      · rw [hskip, properties]
        exact .fault
      · rw [skipKinds_append hskip]
        refine (grows_properties file record _).behind fun hne => ?_
        rintro rfl
        exact hne rfl
    refine hnext.andThen fun ps r₂ h₂ h₂' => ?_
    exact .given
termination_by ts.length
decreasing_by
  have := length_skipKinds_le [.mark .semicolon, .mark .comma] r₁
  simp at h₁ ⊢
  omega

theorem grows_interface (file : Path) (start : Position) (ts : List Token) :
    (interface file start ts).Grows True more ts fun _ => interface file start (ts ++ more) := by
  rw [interface, interface]
  refine (grows_takeKind _ ts).opened.andThen fun _ r₁ h₁ h₁' => ?_
  refine (grows_takeName r₁).opened.andThen fun name r₂ h₂ h₂' => ?_
  refine (grows_typeParameters r₂).andThen fun parameters r₃ h₃ h₃' => ?_
  cases r₃ with
  | nil => exact .fault
  | cons t₃ r₃ =>
    refine .ite (fun _ => .fault) fun _ => ?_
    refine (grows_takeKind _ (t₃ :: r₃)).opened.andThen fun _ r₄ h₄ h₄' => ?_
    refine (grows_properties file _ r₄).andThen fun ps r₅ h₅ h₅' => ?_
    exact (grows_takeKind _ r₅).andThen_read _

/-! ## Enumerations -/

theorem grows_initializerParts (depth : Int) (ts : List Token) :
    (initializerParts depth ts).Grows False more ts fun _ =>
      initializerParts depth (ts ++ more) := by
  induction ts generalizing depth with
  | nil => exact .of_nil
  | cons t r ih =>
    rw [initializerParts, List.cons_append, initializerParts]
    refine .ite (fun _ => .read) fun _ => ?_
    exact ((ih _).cons.map _).weaken

theorem grows_initializer (ts : List Token) :
    (initializer ts).Grows False more ts fun _ => initializer (ts ++ more) :=
  (grows_initializerParts 0 ts).map _

/-- A lone string is one whatever follows, and a string at the end is no initializer. -/
theorem loneString?_append (ts : List Token) :
    loneString? (ts ++ more) = (loneString? ts).map (fun s => (s.1, s.2 ++ more)) ∨
      loneString? ts = none ∧ initializer ts = .fault .unterminatedInitializer [] := by
  match ts with
  | [] => exact .inr ⟨rfl, rfl⟩
  | [t] =>
    by_cases hstring : t.kind = .string
    · refine .inr ⟨by simp [loneString?, headKind], ?_⟩
      rw [initializer, initializerParts, if_neg (by simp [hstring])]
      rfl
    · exact .inl (by simp [loneString?, hstring])
  | t :: t' :: r =>
    have hhead : headKind (t' :: r ++ more) = headKind (t' :: r) := rfl
    refine .inl ?_
    rw [List.cons_append, loneString?, loneString?, hhead]
    split <;> rfl

theorem grows_memberValue (ts : List Token) :
    (memberValue ts).Grows False more ts fun _ => memberValue (ts ++ more) := by
  cases ts with
  | nil => exact .of_nil
  | cons t r =>
    rw [memberValue, List.cons_append, memberValue]
    refine .ite (fun _ => ?_) fun _ => .read
    rcases loneString?_append r with hlone | ⟨hnone, hfault⟩
    · split
      · next value r₁ hsome =>
        rw [hsome] at hlone
        split
        · next hsome' =>
          cases hlone.symm.trans hsome'
          exact .read
        · next hnone' => cases hlone.symm.trans hnone'
      · next hnone =>
        rw [hnone] at hlone
        split
        · next hsome' => cases hlone.symm.trans hsome'
        · exact ((grows_initializer r).cons.map _).weaken
    · split
      · next hsome => cases hnone.symm.trans hsome
      · rw [hfault]
        exact .fault

theorem grows_memberEnd (ts : List Token) :
    (memberEnd ts).Grows False more ts fun _ => memberEnd (ts ++ more) := by
  cases ts with
  | nil => exact .of_nil
  | cons t r =>
    have hhead : headKind (t :: r ++ more) = headKind (t :: r) := rfl
    rw [memberEnd, memberEnd, hhead]
    refine .ite (fun _ => .read) fun _ => ?_
    exact ((grows_takeKind _ (t :: r)).opened.map _).weaken

theorem grows_members (enumeration : String) (ts : List Token) :
    (members enumeration ts).Grows False more ts fun _ => members enumeration (ts ++ more) := by
  cases ts with
  | nil => exact .of_nil
  | cons t r =>
    rw [members, List.cons_append, members]
    refine .ite (fun _ => .read) fun _ => ?_
    refine (grows_takeMemberName (t :: r)).opened.andThen fun name r₁ h₁ h₁' => ?_
    refine (grows_memberValue r₁).andThen fun value r₂ h₂ h₂' => ?_
    refine (grows_memberEnd r₂).andThen fun _ r₃ h₃ h₃' => ?_
    refine (grows_members enumeration r₃).andThen fun ms r₄ h₄ h₄' => ?_
    exact .given
termination_by ts.length
decreasing_by simp at h₁ ⊢; omega

theorem grows_enumeration (file : Path) (start : Position) (ts : List Token) :
    (enumeration file start ts).Grows True more ts fun _ =>
      enumeration file start (ts ++ more) := by
  rw [enumeration, enumeration]
  refine (grows_takeKind _ ts).opened.andThen fun _ r₁ h₁ h₁' => ?_
  refine (grows_takeName r₁).opened.andThen fun name r₂ h₂ h₂' => ?_
  refine (grows_takeKind _ r₂).opened.andThen fun _ r₃ h₃ h₃' => ?_
  refine (grows_members _ r₃).andThen fun ms r₄ h₄ h₄' => ?_
  exact (grows_takeKind _ r₄).andThen_read _

/-! ## Declarations -/

/-- An interface or an enumeration is read in the same way whatever follows. -/
theorem declaration_append {ts : List Token} {d : Declaration} {rest : List Token}
    {le : rest.length ≤ ts.length - 1} (h : declaration file ts = .read d rest le)
    (hd : d.IsData) (more : List Token) :
    ∃ le', declaration file (ts ++ more) = .read d (rest ++ more) le' := by
  cases ts with
  | nil => cases h
  | cons first r =>
    cases hr₀ : skipKinds modifiers (first :: r) with
    | nil =>
      rw [declaration_of_nil file hr₀] at h
      cases h
    | cons t r₁ =>
      have le₁ : r₁.length ≤ (first :: r).length - 1 := by
        have hle := length_skipKinds_le modifiers (first :: r)
        rw [hr₀, List.length_cons] at hle
        omega
      have le₂ : (r₁ ++ more).length ≤ (first :: (r ++ more)).length - 1 := by
        simp only [List.length_cons, List.length_append] at le₁ ⊢
        omega
      have hr₀' : skipKinds modifiers (first :: (r ++ more)) = t :: (r₁ ++ more) := by
        rw [← List.cons_append, skipKinds_append (by rw [hr₀]; simp), hr₀, List.cons_append]
      rw [declaration_of_cons file hr₀ le₁] at h
      rw [List.cons_append, declaration_of_cons file hr₀' le₂]
      by_cases hinterface : t.kind = .keyword .interfaceWord
      · rw [if_pos hinterface] at h ⊢
        exact ((grows_interface file _ (t :: r₁)).map _).weaken.exists_of_read h
      rw [if_neg hinterface] at h ⊢
      by_cases henum : t.kind = .keyword .enumWord
      · rw [if_pos henum] at h ⊢
        exact ((grows_enumeration file _ (t :: r₁)).map _).weaken.exists_of_read h
      rw [if_neg henum] at h ⊢
      by_cases hconst : (t.kind = .keyword .constWord && headKind r₁ = .keyword .enumWord) = true
      · have hne : r₁ ≠ [] := by
          rintro rfl
          simp [headKind] at hconst
        rw [headKind_append hne]
        rw [if_pos hconst] at h ⊢
        exact ((grows_enumeration file _ r₁).map _).weaken.exists_of_read h
      rw [if_neg hconst] at h
      cases hkind : otherKind? t.kind with
      | some kind =>
        rw [hkind] at h
        cases h
        exact hd.elim
      | none =>
        rw [hkind] at h
        cases h

/-- Semicolons in front of declarations do not matter. -/
theorem declarations_of_skipKinds_eq {ts ts' : List Token}
    (h : skipKinds [.mark .semicolon] ts' = skipKinds [.mark .semicolon] ts)
    (le : ts.length ≤ ts'.length) :
    declarations file ts' = (declarations file ts).weaken le := by
  have length_le := length_skipKinds_le [.mark .semicolon] ts
  cases hr : skipKinds [.mark .semicolon] ts with
  | nil =>
    rw [declarations_of_nil file hr, declarations_of_nil file (h.trans hr)]
    rfl
  | cons t r =>
    rw [hr] at length_le
    rw [declarations_of_cons file hr length_le,
      declarations_of_cons file (h.trans hr) (Nat.le_trans length_le le)]
    cases declaration file (t :: r) with
    | fault => rfl
    | read d r₁ h₁ =>
      rw [Part.andThen, Part.andThen]
      cases declarations file r₁ <;> rfl

theorem skipKinds_append_of_eq_nil {kinds : List TokenKind} {ts : List Token}
    (h : skipKinds kinds ts = []) (more : List Token) :
    skipKinds kinds (ts ++ more) = skipKinds kinds more := by
  rw [skipKinds] at h
  rw [skipKinds, List.dropWhile_append, if_pos (by rw [h]; rfl)]
  rfl

theorem length_le_append (ts more : List Token) : more.length ≤ (ts ++ more).length :=
  (List.sublist_append_right ts more).length_le

/-- Declarations that are read up to the end are read before those of the tokens that follow. -/
theorem declarations_append {ts : List Token} {ds : List Declaration} {rest : List Token}
    {le : rest.length ≤ ts.length} (h : declarations file ts = .read ds rest le)
    (hdata : ∀ d ∈ ds, d.IsData) (more : List Token) :
    declarations file (ts ++ more) =
      ((declarations file more).map (ds ++ ·)).weaken (length_le_append ts more) := by
  have length_le := length_skipKinds_le [.mark .semicolon] ts
  cases hr₀ : skipKinds [.mark .semicolon] ts with
  | nil =>
    rw [declarations_of_nil file hr₀] at h
    cases h
    rw [declarations_of_skipKinds_eq (skipKinds_append_of_eq_nil hr₀ more)
      (length_le_append ts more)]
    cases declarations file more <;> rfl
  | cons t r =>
    rw [hr₀] at length_le
    obtain ⟨d, r₁, h₁, ds₁, h₂, hd, hds, rfl⟩ := exists_of_declarations_eq_read hr₀ h
    have hshorter : r₁.length < ts.length := by
      rw [List.length_cons] at h₁ length_le
      omega
    obtain ⟨hfirst, hothers⟩ := List.forall_mem_cons.mp hdata
    obtain ⟨le₁, hgrown⟩ := declaration_append hd hfirst more
    have hd' : declaration file (t :: (r ++ more)) = .read d (r₁ ++ more) le₁ := hgrown
    have hds' := declarations_append hds hothers more
    have hr₀' : skipKinds [.mark .semicolon] (ts ++ more) = t :: (r ++ more) := by
      rw [skipKinds_append (by rw [hr₀]; simp), hr₀, List.cons_append]
    have length_le' : (t :: (r ++ more)).length ≤ (ts ++ more).length := by
      rw [← List.cons_append, List.length_append, List.length_append]
      omega
    rw [declarations_of_cons file hr₀' length_le', hd', Part.andThen, hds']
    cases declarations file more <;> rfl
termination_by ts.length
decreasing_by exact hshorter

end SchemaGrammar.Source
