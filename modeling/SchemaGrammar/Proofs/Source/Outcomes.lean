import SchemaGrammar.Proofs.Source.Spelling

/-!
# What parts give and leave

Reading a part leaves the last of its tokens and nothing else, also where it is at fault, and its
faults concern tokens, not characters. If names are names, the types it gives are canonical and
the names it gives can be written.
-/
namespace SchemaGrammar

namespace Source

def FaultCause.isLexical : FaultCause → Bool
  | unterminatedComment => true
  | unterminatedString => true
  | invalidEscape => true
  | unpairedSurrogate => true
  | _ => false

/-- Whether the identifiers and keywords among tokens are names. -/
def Named (ts : List Token) : Prop := ∀ t ∈ ts, t.kind.isName = true → IsName t.value

theorem Named.of_suffix {ts ts' : List Token} (h : Named ts) (hts : ts' <:+ ts) : Named ts' :=
  fun t ht => h t (hts.subset ht)

/-- A part leaves the last of the tokens `ts`; its value is good, its fault is not lexical. -/
def Part.Within {α : Type} {n : Nat} (ts : List Token) (good : α → Prop) (p : Part α n) : Prop :=
  Named ts → p.rest <:+ ts ∧
    match p with
    | .read a _ _ => good a
    | .fault cause _ => cause.isLexical = false

namespace Part.Within

variable {α β : Type} {m n : Nat} {ts ts' : List Token} {good : α → Prop} {good' : β → Prop}
  {p : Part α m}

theorem read {a : α} {rest : List Token} {le : rest.length ≤ m} (hrest : rest <:+ ts)
    (ha : good a) : Within ts good (.read a rest le) :=
  fun _ => ⟨hrest, ha⟩

theorem fault {cause : FaultCause} {rest : List Token} (hrest : rest <:+ ts)
    (hcause : cause.isLexical = false) : Within ts good (.fault cause rest : Part α m) :=
  fun _ => ⟨hrest, hcause⟩

theorem of_suffix (hp : p.Within ts' good) (h : ts' <:+ ts) : p.Within ts good := by
  intro hts
  obtain ⟨hrest, hvalue⟩ := hp (hts.of_suffix h)
  exact ⟨hrest.trans h, hvalue⟩

theorem cons {t : Token} (hp : p.Within ts good) : p.Within (t :: ts) good :=
  hp.of_suffix (List.suffix_cons t ts)

theorem andThen {next : α → (ts : List Token) → ts.length ≤ m → Part β n} (hp : p.Within ts good)
    (hnext : ∀ a r h, good a → (next a r h).Within r good') :
    (p.andThen next).Within ts good' := by
  intro hts
  obtain ⟨hrest, hvalue⟩ := hp hts
  cases p with
  | fault cause rest => exact ⟨hrest, hvalue⟩
  | read a r h => exact (hnext a r h hvalue).of_suffix hrest hts

theorem weaken {h : m ≤ n} (hp : p.Within ts good) : (p.weaken h).Within ts good :=
  hp.andThen fun _ _ _ ha => .read (List.suffix_refl _) ha

theorem map {f : α → β} (hp : p.Within ts good) (hf : ∀ a, good a → good' (f a)) :
    (p.map f).Within ts good' :=
  hp.andThen fun a _ _ ha => .read (List.suffix_refl _) (hf a ha)

theorem imp {good' : α → Prop} (hp : p.Within ts good) (h : ∀ a, good a → good' a) :
    p.Within ts good' := by
  intro hts
  obtain ⟨hrest, hvalue⟩ := hp hts
  cases p with
  | read a r le => exact ⟨hrest, h a hvalue⟩
  | fault cause rest => exact ⟨hrest, hvalue⟩

theorem ite {c : Prop} [Decidable c] {q : Part α m} (hp : c → p.Within ts good)
    (hq : ¬ c → q.Within ts good) : (if c then p else q).Within ts good := by
  split
  · next hc => exact hp hc
  · next hc => exact hq hc

end Part.Within

theorem suffix_ite_tail {c : Prop} [Decidable c] (t : Token) (r : List Token) :
    (if c then r else t :: r) <:+ t :: r := by
  split
  · exact List.suffix_cons t r
  · exact List.suffix_refl _

/-! ## Single tokens -/

theorem within_takeKind (kind : TokenKind) (ts : List Token) :
    (takeKind kind ts).Within ts fun _ => True := by
  cases ts with
  | nil => exact .fault (List.suffix_refl _) rfl
  | cons t r =>
    rw [takeKind]
    exact .ite (fun _ => .read (List.suffix_cons t r) trivial) fun _ =>
      .fault (List.suffix_refl _) rfl

theorem within_takeName (ts : List Token) : (takeName ts).Within ts fun t => IsName t.value := by
  cases ts with
  | nil => exact .fault (List.suffix_refl _) rfl
  | cons t r =>
    rw [takeName]
    refine .ite (fun hname hts => ?_) fun _ => .fault (List.suffix_refl _) rfl
    exact ⟨List.suffix_cons t r, hts t List.mem_cons_self hname⟩

theorem within_takeMemberName (ts : List Token) :
    (takeMemberName ts).Within ts fun _ => True := by
  have hname (ts : List Token) : (takeName ts).Within ts fun _ => True :=
    (within_takeName ts).imp fun _ _ => trivial
  cases ts with
  | nil => exact hname []
  | cons t r =>
    rw [takeMemberName]
    exact .ite (fun _ => .read (List.suffix_cons t r) trivial) fun _ => hname _

/-! ## Types -/

theorem within_dottedNames (spelling : String) (ts : List Token) :
    (dottedNames spelling ts).Within ts fun s =>
      ∃ path : List Word, s = spelling ++ String.join (path.map ("." ++ ·.text)) := by
  have hself : ∃ path : List Word,
      spelling = spelling ++ String.join (path.map ("." ++ ·.text)) := ⟨[], by simp⟩
  cases ts with
  | nil =>
    rw [dottedNames]
    exact .read (List.suffix_refl _) hself
  | cons t r =>
    rw [dottedNames]
    refine .ite (fun _ => .cons ?_) fun _ => .read (List.suffix_refl _) hself
    refine (within_takeName r).andThen fun name r₁ h₁ hname => ?_
    refine ((within_dottedNames _ r₁).weaken).imp ?_
    rintro _ ⟨path, rfl⟩
    exact ⟨⟨name.value, hname⟩ :: path, by simp [String.append_assoc]⟩
termination_by ts.length
decreasing_by simp; omega

theorem within_arrayMarks (spelling : String) (ts : List Token) :
    (arrayMarks spelling ts).Within ts fun s =>
      ∃ brackets, s = spelling ++ String.join (List.replicate brackets "[]") := by
  have hself : ∃ brackets, spelling = spelling ++ String.join (List.replicate brackets "[]") :=
    ⟨0, by simp⟩
  cases ts with
  | nil =>
    rw [arrayMarks]
    exact .read (List.suffix_refl _) hself
  | cons t r =>
    rw [arrayMarks]
    refine .ite (fun _ => .cons ?_) fun _ => .read (List.suffix_refl _) hself
    refine (within_takeKind _ r).andThen fun _ r₁ h₁ _ => ?_
    refine ((within_arrayMarks _ r₁).weaken).imp ?_
    rintro _ ⟨brackets, rfl⟩
    exact ⟨brackets + 1, by simp [List.replicate_succ, String.append_assoc]⟩
termination_by ts.length
decreasing_by simp; omega

theorem suffix_skipBar (ts : List Token) : skipBar ts <:+ ts := by
  cases ts with
  | nil => exact List.suffix_refl _
  | cons t r =>
    rw [skipBar]
    exact suffix_ite_tail t r

/-- A refusal of a type concerns a token. -/
theorem isLexical_of_refusedType? {owner : String} {kind : TokenKind} {cause : FaultCause}
    (h : refusedType? owner kind = some cause) : cause.isLexical = false := by
  unfold refusedType? at h
  split at h <;> cases h <;> rfl

mutual

theorem within_typeExpr (owner : String) (ts : List Token) :
    (typeExpr owner ts).Within ts fun t => ∃ u : TypeUnion, t = u.typeExpr := by
  rw [typeExpr]
  refine ((within_typeAtom owner _).of_suffix (suffix_skipBar ts)).andThen
    fun first r₁ h₁ hfirst => ?_
  refine (within_alternatives owner r₁).andThen fun others r₂ h₂ hothers => ?_
  refine .ite (fun _ => .fault (List.suffix_refl _) rfl) fun _ => .read (List.suffix_refl _) ?_
  obtain ⟨a, rfl⟩ := hfirst
  obtain ⟨as, rfl⟩ := hothers
  exact ⟨.mk a as, rfl⟩
termination_by 3 * ts.length + 2
decreasing_by
  · have := length_skipBar_le ts
    omega
  · have := length_skipBar_le ts
    omega

theorem within_alternatives (owner : String) (ts : List Token) :
    (alternatives owner ts).Within ts fun texts =>
      ∃ as : List TypeAtom, texts = TypeAtom.texts as := by
  cases ts with
  | nil =>
    rw [alternatives]
    exact .read (List.suffix_refl _) ⟨[], rfl⟩
  | cons t r =>
    rw [alternatives]
    refine .ite (fun _ => .cons ?_) fun _ => .read (List.suffix_refl _) ⟨[], rfl⟩
    refine (within_typeAtom owner r).andThen fun spelling r₁ h₁ hspelling => ?_
    refine (within_alternatives owner r₁).andThen fun spellings r₂ h₂ hspellings => ?_
    obtain ⟨a, rfl⟩ := hspelling
    obtain ⟨as, rfl⟩ := hspellings
    exact .read (List.suffix_refl _) ⟨a :: as, rfl⟩
termination_by 3 * ts.length
decreasing_by
  · simp
    omega
  · simp
    omega

theorem within_typeAtom (owner : String) (ts : List Token) :
    (typeAtom owner ts).Within ts fun text => ∃ a : TypeAtom, text = a.text := by
  rw [typeAtom]
  cases hrefused : refusedType? owner (headKind ts) with
  | some cause => exact .fault (List.suffix_refl _) (isLexical_of_refusedType? hrefused)
  | none =>
    refine (within_takeName ts).andThen fun name r₁ h₁ hname => ?_
    refine (within_dottedNames _ r₁).andThen fun spelling r₂ h₂ hpath => ?_
    refine (within_typeArguments owner spelling r₂).andThen fun spelling' r₃ h₃ harguments => ?_
    refine ((within_arrayMarks spelling' r₃).weaken).imp ?_
    obtain ⟨path, rfl⟩ := hpath
    obtain ⟨arguments, rfl⟩ := harguments
    rintro _ ⟨brackets, rfl⟩
    exact ⟨.mk ⟨name.value, hname⟩ path arguments brackets, by rw [TypeAtom.text]⟩
termination_by 3 * ts.length + 1
decreasing_by omega

theorem within_typeArguments (owner spelling : String) (ts : List Token) :
    (typeArguments owner spelling ts).Within ts fun text =>
      ∃ us : List TypeUnion, text = spelling ++ argumentsText (TypeUnion.texts us) := by
  have hself : ∃ us : List TypeUnion, spelling = spelling ++ argumentsText (TypeUnion.texts us) :=
    ⟨[], by simp [TypeUnion.texts, argumentsText]⟩
  cases ts with
  | nil =>
    rw [typeArguments]
    exact .read (List.suffix_refl _) hself
  | cons t r =>
    rw [typeArguments]
    refine .ite (fun _ => .cons ?_) fun _ => .read (List.suffix_refl _) hself
    refine (within_typeExpr owner r).andThen fun first r₁ h₁ hfirst => ?_
    refine (within_moreArguments owner r₁).andThen fun others r₂ h₂ hothers => ?_
    refine (within_takeKind _ r₂).andThen fun _ r₃ h₃ _ => .read (List.suffix_refl _) ?_
    obtain ⟨u, rfl⟩ := hfirst
    obtain ⟨us, rfl⟩ := hothers
    refine ⟨u :: us, ?_⟩
    rw [TypeUnion.texts, argumentsText, TypeUnion.text_typeExpr, String.append_assoc,
      String.append_assoc, String.append_assoc]
termination_by 3 * ts.length
decreasing_by
  · simp
    omega
  · simp
    omega

theorem within_moreArguments (owner : String) (ts : List Token) :
    (moreArguments owner ts).Within ts fun texts =>
      ∃ us : List TypeUnion, texts = TypeUnion.texts us := by
  cases ts with
  | nil =>
    rw [moreArguments]
    exact .read (List.suffix_refl _) ⟨[], rfl⟩
  | cons t r =>
    rw [moreArguments]
    refine .ite (fun _ => .cons ?_) fun _ => .read (List.suffix_refl _) ⟨[], rfl⟩
    refine (within_typeExpr owner r).andThen fun type r₁ h₁ htype => ?_
    refine (within_moreArguments owner r₁).andThen fun types r₂ h₂ htypes => ?_
    obtain ⟨u, rfl⟩ := htype
    obtain ⟨us, rfl⟩ := htypes
    refine .read (List.suffix_refl _) ⟨u :: us, ?_⟩
    rw [TypeUnion.texts, TypeUnion.text_typeExpr]
termination_by 3 * ts.length
decreasing_by
  · simp
    omega
  · simp
    omega

end

theorem TypeUnion.exists_atom {u : TypeUnion} {spelling : String}
    (h : spelling ∈ u.typeExpr.spellings) : ∃ a : TypeAtom, a.text = spelling := by
  obtain ⟨first, others⟩ := u
  have hmem : spelling ∈ (first :: others).map TypeAtom.text := by
    rw [List.map_cons, ← TypeAtom.texts_eq_map]
    exact h
  obtain ⟨a, -, ha⟩ := List.mem_map.mp hmem
  exact ⟨a, ha⟩

/-! ## Interfaces -/

theorem within_moreParameters (depth : Nat) (ts : List Token) :
    (moreParameters depth ts).Within ts fun names => ∀ name ∈ names, IsName name := by
  cases ts with
  | nil =>
    rw [moreParameters]
    exact .fault (List.suffix_refl _) rfl
  | cons t r =>
    rw [moreParameters]
    refine .ite (fun _ => ?_) fun _ => .ite (fun _ => .ite (fun _ => ?_) fun _ => ?_) fun _ =>
      .ite (fun _ => ?_) fun _ => ?_
    · exact (within_moreParameters _ r).cons.weaken
    · exact .read (List.suffix_cons t r) (List.forall_mem_nil _)
    · exact (within_moreParameters _ r).cons.weaken
    · refine (within_takeName r).cons.andThen fun name r₁ h₁ hname => ?_
      refine ((within_moreParameters 0 r₁).map ?_).weaken
      exact fun names hnames => List.forall_mem_cons.mpr ⟨hname, hnames⟩
    · exact (within_moreParameters _ r).cons.weaken
termination_by ts.length
decreasing_by
  all_goals simp
  all_goals omega

theorem within_typeParameters (ts : List Token) :
    (typeParameters ts).Within ts fun names => ∀ name ∈ names, IsName name := by
  cases ts with
  | nil => exact .read (List.suffix_refl _) (List.forall_mem_nil _)
  | cons t r =>
    rw [typeParameters]
    refine .ite (fun _ => ?_) fun _ => .read (List.suffix_refl _) (List.forall_mem_nil _)
    refine (within_takeName r).cons.andThen fun name r₁ h₁ hname => ?_
    refine ((within_moreParameters 0 r₁).map ?_).weaken
    exact fun names hnames => List.forall_mem_cons.mpr ⟨hname, hnames⟩

theorem suffix_skipReadonly (ts : List Token) : skipReadonly ts <:+ ts := by
  cases ts with
  | nil => exact List.suffix_refl _
  | cons t r =>
    rw [skipReadonly]
    exact suffix_ite_tail t r

theorem isLexical_of_refusedProperty? {owner : String} {kind : TokenKind} {cause : FaultCause}
    (h : refusedProperty? owner kind = some cause) : cause.isLexical = false := by
  unfold refusedProperty? at h
  split at h <;> cases h <;> rfl

theorem within_property (file : Path) (record : String) (ts : List Token) :
    (property file record ts).Within ts fun p => ∃ u : TypeUnion, p.type = u.typeExpr := by
  rw [property]
  dsimp only
  refine .of_suffix (.ite (fun _ => .fault (List.suffix_refl _) rfl) fun _ => ?_)
    (suffix_skipReadonly ts)
  refine (within_takeMemberName _).andThen fun name r₁ h₁ _ => ?_
  cases hrefused : refusedProperty? (record ++ "." ++ name.value) (headKind r₁) with
  | some cause => exact .fault (List.suffix_refl _) (isLexical_of_refusedProperty? hrefused)
  | none =>
    refine ((within_typeExpr _ r₁.tail).of_suffix (List.tail_suffix r₁)).andThen
      fun type r₂ h₂ htype => ?_
    exact .read (List.suffix_refl _) htype

theorem suffix_skipKinds (kinds : List TokenKind) (ts : List Token) : skipKinds kinds ts <:+ ts :=
  List.dropWhile_suffix _

theorem within_properties (file : Path) (record : String) (ts : List Token) :
    (properties file record ts).Within ts fun ps =>
      ∀ p ∈ ps, ∃ u : TypeUnion, p.type = u.typeExpr := by
  cases ts with
  | nil =>
    rw [properties]
    exact .fault (List.suffix_refl _) rfl
  | cons t r =>
    rw [properties]
    refine .ite (fun _ => .read (List.suffix_refl _) (List.forall_mem_nil _)) fun _ => ?_
    refine (within_property file record (t :: r)).andThen fun p r₁ h₁ hp => ?_
    refine ((within_properties file record _).of_suffix (suffix_skipKinds _ r₁)).andThen
      fun ps r₂ h₂ hps => ?_
    exact .read (List.suffix_refl _) (List.forall_mem_cons.mpr ⟨hp, hps⟩)
termination_by ts.length
decreasing_by
  have := length_skipKinds_le [.mark .semicolon, .mark .comma] r₁
  simp at h₁ ⊢
  omega

theorem within_interface (file : Path) (start : Position) (ts : List Token) :
    (interface file start ts).Within ts Record.Writable := by
  rw [interface]
  refine (within_takeKind _ ts).andThen fun _ r₁ h₁ _ => ?_
  refine (within_takeName r₁).andThen fun name r₂ h₂ hname => ?_
  refine (within_typeParameters r₂).andThen fun parameters r₃ h₃ hparameters => ?_
  refine .ite (fun _ => .fault (List.suffix_refl _) rfl) fun _ => ?_
  refine (within_takeKind _ r₃).andThen fun _ r₄ h₄ _ => ?_
  refine (within_properties file _ r₄).andThen fun ps r₅ h₅ hps => ?_
  refine (within_takeKind _ r₅).andThen fun _ r₆ h₆ _ => ?_
  refine .read (List.suffix_refl _) ⟨hname, hparameters, fun p hp spelling hspelling => ?_⟩
  obtain ⟨u, htype⟩ := hps p hp
  exact TypeUnion.exists_atom (htype ▸ hspelling)

/-! ## Enumerations -/

theorem within_initializerParts (depth : Int) (ts : List Token) :
    (initializerParts depth ts).Within ts fun _ => True := by
  induction ts generalizing depth with
  | nil => exact .fault (List.suffix_refl _) rfl
  | cons t r ih =>
    rw [initializerParts]
    refine .ite (fun _ => .read (List.suffix_refl _) trivial) fun _ => ?_
    exact ((ih _).cons.map fun _ _ => trivial).weaken

theorem suffix_of_loneString? {ts r : List Token} {s : String} (h : loneString? ts = some (s, r)) :
    r <:+ ts := by
  cases ts with
  | nil => cases h
  | cons t ts =>
    rw [loneString?] at h
    split at h
    · cases h
      exact List.suffix_cons _ _
    · cases h

theorem within_memberValue (ts : List Token) : (memberValue ts).Within ts fun _ => True := by
  cases ts with
  | nil => exact .read (List.suffix_refl _) trivial
  | cons t r =>
    rw [memberValue]
    refine .ite (fun _ => .cons ?_) fun _ => .read (List.suffix_refl _) trivial
    split
    · next hlone => exact .read (suffix_of_loneString? hlone) trivial
    · have hinitializer : (initializer r).Within r fun _ => True :=
        (within_initializerParts 0 r).map fun _ _ => trivial
      exact (hinitializer.map fun _ _ => trivial).weaken

theorem within_memberEnd (ts : List Token) : (memberEnd ts).Within ts fun _ => True := by
  rw [memberEnd]
  refine .ite (fun _ => .read (List.suffix_refl _) trivial) fun _ => ?_
  exact ((within_takeKind _ ts).map fun _ _ => trivial).weaken

theorem within_members (enumeration : String) (ts : List Token) :
    (members enumeration ts).Within ts fun _ => True := by
  cases ts with
  | nil =>
    rw [members]
    exact .fault (List.suffix_refl _) rfl
  | cons t r =>
    rw [members]
    refine .ite (fun _ => .read (List.suffix_refl _) trivial) fun _ => ?_
    refine (within_takeMemberName (t :: r)).andThen fun name r₁ h₁ _ => ?_
    refine (within_memberValue r₁).andThen fun value r₂ h₂ _ => ?_
    refine (within_memberEnd r₂).andThen fun _ r₃ h₃ _ => ?_
    refine (within_members enumeration r₃).andThen fun ms r₄ h₄ _ => ?_
    exact .read (List.suffix_refl _) trivial
termination_by ts.length
decreasing_by simp at h₁ ⊢; omega

theorem within_enumeration (file : Path) (start : Position) (ts : List Token) :
    (enumeration file start ts).Within ts fun e => IsName e.name := by
  rw [enumeration]
  refine (within_takeKind _ ts).andThen fun _ r₁ h₁ _ => ?_
  refine (within_takeName r₁).andThen fun name r₂ h₂ hname => ?_
  refine (within_takeKind _ r₂).andThen fun _ r₃ h₃ _ => ?_
  refine (within_members _ r₃).andThen fun ms r₄ h₄ _ => ?_
  refine (within_takeKind _ r₄).andThen fun _ r₅ h₅ _ => ?_
  exact .read (List.suffix_refl _) hname

/-! ## Declarations -/

theorem suffix_passOver (body : Bool) (line : Nat) (p : Passage) (ts : List Token) :
    passOver body line p ts <:+ ts := by
  induction ts generalizing p with
  | nil => exact List.suffix_refl _
  | cons t r ih =>
    have hon (p' : Passage) : passOver body line p' r <:+ t :: r :=
      (ih p').trans (List.suffix_cons t r)
    rw [passOver]
    dsimp only
    split_ifs
    · exact List.suffix_cons t r
    · exact List.suffix_refl _
    all_goals first
      | exact hon _
      | exact List.suffix_cons t r

theorem suffix_skipClassWord (keyword : Token) (ts : List Token) :
    skipClassWord keyword ts <:+ ts := by
  cases ts with
  | nil => exact List.suffix_refl _
  | cons t r =>
    rw [skipClassWord]
    exact suffix_ite_tail t r

end Source

open Source in
def Declaration.IsCanonical : Declaration → Prop
  | .record r => r.Writable
  | .enumeration e => IsName e.name
  | .other _ => True

namespace Source

theorem within_declaration (file : Path) (ts : List Token) :
    (declaration file ts).Within ts Declaration.IsCanonical := by
  have hrecord (r : Record) (h : r.Writable) : (Declaration.record r).IsCanonical := h
  have henumeration (e : Enumeration) (h : IsName e.name) :
      (Declaration.enumeration e).IsCanonical := h
  cases ts with
  | nil => exact .fault (List.suffix_refl _) rfl
  | cons first r =>
    have hsuffix := suffix_skipKinds modifiers (first :: r)
    cases hr : skipKinds modifiers (first :: r) with
    | nil =>
      rw [declaration_of_nil file hr]
      exact .fault (List.nil_suffix) rfl
    | cons t r₁ =>
      rw [hr] at hsuffix
      have le : r₁.length ≤ (first :: r).length - 1 := Nat.le_sub_one_of_lt hsuffix.length_le
      rw [declaration_of_cons file hr le]
      refine .of_suffix (.ite (fun _ => ?_) fun _ => .ite (fun _ => ?_) fun _ =>
        .ite (fun _ => ?_) fun _ => ?_) hsuffix
      · exact ((within_interface file _ (t :: r₁)).map hrecord).weaken
      · exact ((within_enumeration file _ (t :: r₁)).map henumeration).weaken
      · exact ((within_enumeration file _ r₁).map henumeration).weaken.cons
      · cases otherKind? t.kind with
        | none => exact .fault (List.suffix_refl _) rfl
        | some kind =>
          have hother : (otherDeclaration file first.position kind t r₁).Within r₁ fun _ => True :=
            .read ((suffix_passOver _ _ _ _).trans (suffix_skipClassWord t r₁)) trivial
          exact (hother.map fun _ _ => trivial).weaken.cons

theorem within_declarations (file : Path) (ts : List Token) :
    (declarations file ts).Within ts fun ds => ∀ d ∈ ds, d.IsCanonical := by
  have hsuffix := suffix_skipKinds [.mark .semicolon] ts
  cases hr : skipKinds [.mark .semicolon] ts with
  | nil =>
    rw [declarations_of_nil file hr]
    exact .read List.nil_suffix (List.forall_mem_nil _)
  | cons t r =>
    rw [hr] at hsuffix
    have hlength := hsuffix.length_le
    rw [declarations_of_cons file hr hlength]
    refine ((within_declaration file (t :: r)).of_suffix hsuffix).andThen fun d r₁ h₁ hd => ?_
    refine (within_declarations file r₁).andThen fun ds r₂ h₂ hds => ?_
    exact .read (List.suffix_refl _) (List.forall_mem_cons.mpr ⟨hd, hds⟩)
termination_by ts.length
decreasing_by
  simp at hlength h₁
  omega

end Source

end SchemaGrammar
