import Mathlib.Data.List.TakeWhile
import SchemaGrammar.Proofs.Source.Outcomes

/-!
# The tokens of declarations

Reading a part takes tokens from the front. Those of a property are a name before a colon and a type
after it, where no other colon is; those of a declaration begin with its modifiers. The location
that a property or a declaration bears is that of its name, or of its first token.
-/
namespace SchemaGrammar

def Declaration.location : Declaration → Option Location
  | record r => r.location
  | enumeration e => e.location
  | other o => o.location

namespace Source

/-- If a part is read, then from the front of the tokens `ts`, and what it takes from there is good
with its value. -/
def Part.Takes {α : Type} {n : Nat} (ts : List Token) (good : List Token → α → Prop)
    (p : Part α n) : Prop :=
  ∀ a rest le, p = .read a rest le → ∃ taken, ts = taken ++ rest ∧ good taken a

namespace Part.Takes

variable {α β : Type} {m n : Nat} {ts rest : List Token} {good : List Token → α → Prop}
  {good' : List Token → β → Prop} {p : Part α m}

theorem read (taken : List Token) {a : α} {le : rest.length ≤ m} (ha : good taken a) :
    Takes (taken ++ rest) good (.read a rest le) := by
  rintro _ _ _ ⟨⟩
  exact ⟨taken, rfl, ha⟩

theorem fault {cause : FaultCause} : Takes ts good (.fault cause rest : Part α m) := nofun

theorem of_append {front ts' : List Token} (h : ts' = front ++ ts)
    (hp : p.Takes ts fun taken => good (front ++ taken)) : p.Takes ts' good := by
  intro a rest le hread
  obtain ⟨taken, rfl, ha⟩ := hp a rest le hread
  exact ⟨front ++ taken, by rw [h, List.append_assoc], ha⟩

theorem cons {t : Token} (hp : p.Takes ts fun taken => good (t :: taken)) :
    p.Takes (t :: ts) good :=
  hp.of_append (List.singleton_append).symm

theorem andThen {next : α → (ts : List Token) → ts.length ≤ m → Part β n} (hp : p.Takes ts good)
    (hnext : ∀ taken a r h, good taken a →
      (next a r h).Takes r fun more => good' (taken ++ more)) :
    (p.andThen next).Takes ts good' := by
  cases p with
  | fault cause rest => exact .fault
  | read a r le =>
    obtain ⟨taken, rfl, ha⟩ := hp a r le rfl
    exact (hnext taken a r le ha).of_append rfl

theorem imp {good' : List Token → α → Prop} (hp : p.Takes ts good)
    (h : ∀ taken a, good taken a → good' taken a) : p.Takes ts good' := by
  intro a rest le hread
  obtain ⟨taken, rfl, ha⟩ := hp a rest le hread
  exact ⟨taken, rfl, h taken a ha⟩

theorem map {f : α → β} (hp : p.Takes ts good)
    (hf : ∀ taken a, good taken a → good' taken (f a)) : (p.map f).Takes ts good' :=
  hp.andThen fun taken a _ _ ha => .read [] (by simpa using hf taken a ha)

theorem weaken {h : m ≤ n} (hp : p.Takes ts good) : (p.weaken h).Takes ts good :=
  hp.andThen fun _ _ _ _ ha => .read [] (by simpa using ha)

theorem ite {c : Prop} [Decidable c] {q : Part α m} (hp : c → p.Takes ts good)
    (hq : ¬ c → q.Takes ts good) : (if c then p else q).Takes ts good := by
  split
  · next hc => exact hp hc
  · next hc => exact hq hc

end Part.Takes

/-! ## Single tokens -/

theorem takes_takeKind (kind : TokenKind) (ts : List Token) :
    (takeKind kind ts).Takes ts fun taken t => taken = [t] ∧ t.kind = kind := by
  cases ts with
  | nil => exact .fault
  | cons t r =>
    rw [takeKind]
    exact .ite (fun hkind => .read [t] ⟨rfl, hkind⟩) fun _ => .fault

theorem takes_takeName (ts : List Token) :
    (takeName ts).Takes ts fun taken t => taken = [t] ∧ t.kind.isName = true := by
  cases ts with
  | nil => exact .fault
  | cons t r =>
    rw [takeName]
    exact .ite (fun hname => .read [t] ⟨rfl, hname⟩) fun _ => .fault

def IsMemberName (kind : TokenKind) : Prop := kind = .string ∨ kind.isName = true

theorem IsMemberName.ne_mark {kind : TokenKind} (h : IsMemberName kind) (m : Mark) :
    kind ≠ .mark m := by
  rintro rfl
  rcases h with h | h <;> cases h

theorem takes_takeMemberName (ts : List Token) :
    (takeMemberName ts).Takes ts fun taken t => taken = [t] ∧ IsMemberName t.kind := by
  have hname (ts : List Token) :
      (takeName ts).Takes ts fun taken t => taken = [t] ∧ IsMemberName t.kind :=
    (takes_takeName ts).imp fun taken t h => ⟨h.1, .inr h.2⟩
  cases ts with
  | nil => exact hname []
  | cons t r =>
    rw [takeMemberName]
    exact .ite (fun hstring => .read [t] ⟨rfl, .inl hstring⟩) fun _ => hname _

theorem exists_skipKinds (kinds : List TokenKind) (ts : List Token) :
    ∃ skipped, ts = skipped ++ skipKinds kinds ts ∧ ∀ t ∈ skipped, t.kind ∈ kinds :=
  ⟨_, List.takeWhile_append_dropWhile.symm, fun t ht => by simpa using List.mem_takeWhile_imp ht⟩

/-! ## Types -/

def isTypeKind : TokenKind → Bool
  | .mark m => [.dot, .bar, .comma, .openAngle, .closeAngle, .openBracket, .closeBracket].contains m
  | kind => kind.isName

def TypeTokens (ts : List Token) : Prop := ∀ t ∈ ts, isTypeKind t.kind = true

def Part.TakesType {α : Type} {n : Nat} (ts : List Token) (p : Part α n) : Prop :=
  p.Takes ts fun taken _ => TypeTokens taken

namespace Part.TakesType

variable {α β : Type} {m n : Nat} {ts : List Token} {p : Part α m}

theorem read (a : α) (le : ts.length ≤ m) : TakesType ts (.read a ts le) :=
  Takes.read [] (List.forall_mem_nil _)

theorem cons {t : Token} (ht : isTypeKind t.kind = true) (hp : p.TakesType ts) :
    p.TakesType (t :: ts) :=
  Takes.cons (Takes.imp hp fun _ _ htaken => List.forall_mem_cons.mpr ⟨ht, htaken⟩)

theorem andThen {next : α → (ts : List Token) → ts.length ≤ m → Part β n} (hp : p.TakesType ts)
    (hnext : ∀ a r h, (next a r h).TakesType r) : (p.andThen next).TakesType ts :=
  Takes.andThen hp fun _ a r h htaken => Takes.imp (hnext a r h) fun _ _ hmore =>
    List.forall_mem_append.mpr ⟨htaken, hmore⟩

theorem weaken {h : m ≤ n} (hp : p.TakesType ts) : (p.weaken h).TakesType ts := Takes.weaken hp

theorem ite {c : Prop} [Decidable c] {q : Part α m} (hp : c → p.TakesType ts)
    (hq : ¬ c → q.TakesType ts) : (if c then p else q).TakesType ts := Takes.ite hp hq

theorem ite_cons {kind : TokenKind} (hkind : isTypeKind kind = true) {t : Token} {q : Part α m}
    (hp : p.TakesType ts) (hq : q.TakesType (t :: ts)) :
    (if t.kind = kind then p else q).TakesType (t :: ts) :=
  .ite (fun h => .cons (h ▸ hkind) hp) fun _ => hq

end Part.TakesType

theorem isTypeKind_of_isName {kind : TokenKind} (h : kind.isName = true) :
    isTypeKind kind = true := by
  cases kind <;> first | exact h | cases h

theorem takesType_takeName (ts : List Token) : (takeName ts).TakesType ts := by
  refine (takes_takeName ts).imp ?_
  rintro _ t ⟨rfl, hname⟩
  exact List.forall_mem_singleton.mpr (isTypeKind_of_isName hname)

theorem takesType_takeKind {kind : TokenKind} (h : isTypeKind kind = true) (ts : List Token) :
    (takeKind kind ts).TakesType ts := by
  refine (takes_takeKind kind ts).imp ?_
  rintro _ t ⟨rfl, rfl⟩
  exact List.forall_mem_singleton.mpr h

theorem takesType_dottedNames (spelling : String) (ts : List Token) :
    (dottedNames spelling ts).TakesType ts := by
  cases ts with
  | nil =>
    rw [dottedNames]
    exact .read _ _
  | cons t r =>
    rw [dottedNames]
    refine .ite_cons rfl ?_ (.read _ _)
    exact (takesType_takeName r).andThen fun name r₁ h₁ => (takesType_dottedNames _ r₁).weaken
termination_by ts.length
decreasing_by simp; omega

theorem takesType_arrayMarks (spelling : String) (ts : List Token) :
    (arrayMarks spelling ts).TakesType ts := by
  cases ts with
  | nil =>
    rw [arrayMarks]
    exact .read _ _
  | cons t r =>
    rw [arrayMarks]
    refine .ite_cons rfl ?_ (.read _ _)
    exact (takesType_takeKind rfl r).andThen fun _ r₁ h₁ => (takesType_arrayMarks _ r₁).weaken
termination_by ts.length
decreasing_by simp; omega

theorem Part.TakesType.skipBar {α : Type} {n : Nat} {ts : List Token} {p : Part α n}
    (hp : p.TakesType (skipBar ts)) : p.TakesType ts := by
  cases ts with
  | nil => exact hp
  | cons t r =>
    rw [Source.skipBar] at hp
    split_ifs at hp with hbar
    · exact .cons (by rw [hbar]; rfl) hp
    · exact hp

mutual

theorem takesType_typeExpr (owner : String) (ts : List Token) :
    (typeExpr owner ts).TakesType ts := by
  rw [typeExpr]
  refine (takesType_typeAtom owner _).skipBar.andThen fun first r₁ h₁ => ?_
  refine (takesType_alternatives owner r₁).andThen fun others r₂ h₂ => ?_
  exact .ite (fun _ => .fault) fun _ => .read _ _
termination_by 3 * ts.length + 2
decreasing_by
  · have := length_skipBar_le ts
    omega
  · have := length_skipBar_le ts
    omega

theorem takesType_alternatives (owner : String) (ts : List Token) :
    (alternatives owner ts).TakesType ts := by
  cases ts with
  | nil =>
    rw [alternatives]
    exact .read _ _
  | cons t r =>
    rw [alternatives]
    refine .ite_cons rfl ?_ (.read _ _)
    refine (takesType_typeAtom owner r).andThen fun spelling r₁ h₁ => ?_
    exact (takesType_alternatives owner r₁).andThen fun spellings r₂ h₂ => .read _ _
termination_by 3 * ts.length
decreasing_by
  · simp
    omega
  · simp
    omega

theorem takesType_typeAtom (owner : String) (ts : List Token) :
    (typeAtom owner ts).TakesType ts := by
  rw [typeAtom]
  cases refusedType? owner (headKind ts) with
  | some cause => exact .fault
  | none =>
    refine (takesType_takeName ts).andThen fun name r₁ h₁ => ?_
    refine (takesType_dottedNames _ r₁).andThen fun spelling r₂ h₂ => ?_
    refine (takesType_typeArguments owner spelling r₂).andThen fun spelling r₃ h₃ => ?_
    exact (takesType_arrayMarks spelling r₃).weaken
termination_by 3 * ts.length + 1
decreasing_by omega

theorem takesType_typeArguments (owner spelling : String) (ts : List Token) :
    (typeArguments owner spelling ts).TakesType ts := by
  cases ts with
  | nil =>
    rw [typeArguments]
    exact .read _ _
  | cons t r =>
    rw [typeArguments]
    refine .ite_cons rfl ?_ (.read _ _)
    refine (takesType_typeExpr owner r).andThen fun first r₁ h₁ => ?_
    refine (takesType_moreArguments owner r₁).andThen fun others r₂ h₂ => ?_
    exact (takesType_takeKind rfl r₂).andThen fun _ r₃ h₃ => .read _ _
termination_by 3 * ts.length
decreasing_by
  · simp
    omega
  · simp
    omega

theorem takesType_moreArguments (owner : String) (ts : List Token) :
    (moreArguments owner ts).TakesType ts := by
  cases ts with
  | nil =>
    rw [moreArguments]
    exact .read _ _
  | cons t r =>
    rw [moreArguments]
    refine .ite_cons rfl ?_ (.read _ _)
    refine (takesType_typeExpr owner r).andThen fun type r₁ h₁ => ?_
    exact (takesType_moreArguments owner r₁).andThen fun types r₂ h₂ => .read _ _
termination_by 3 * ts.length
decreasing_by
  · simp
    omega
  · simp
    omega

end

/-! ## Properties -/

/-- The tokens of a property, with its name among them: perhaps `readonly`, then the name, a colon
and a type. The property is located at its name. -/
inductive PropertyTokens (file : Path) (p : Property) (name : Token) : List Token → Prop
  | mk {front colon type} : (∀ t ∈ front, t.kind = .keyword .readonlyWord) → front.length ≤ 1 →
      IsMemberName name.kind → colon.kind = .mark .colon → TypeTokens type →
      p.name = name.value → p.location = some (locate file name.position) →
      PropertyTokens file p name (front ++ name :: colon :: type)

/-- The tokens of properties, with their names among them, and separators behind each one. -/
inductive BodyTokens (file : Path) : List Property → List Token → List Token → Prop
  | nil : BodyTokens file [] [] []
  | cons {p ps name names ts separators more} : PropertyTokens file p name ts →
      (∀ t ∈ separators, t.kind ∈ [.mark .semicolon, .mark .comma]) →
      BodyTokens file ps names more →
      BodyTokens file (p :: ps) (name :: names) (ts ++ (separators ++ more))

theorem exists_skipReadonly (ts : List Token) : ∃ front, ts = front ++ skipReadonly ts ∧
    (∀ t ∈ front, t.kind = .keyword .readonlyWord) ∧ front.length ≤ 1 := by
  cases ts with
  | nil => exact ⟨[], rfl, List.forall_mem_nil _, Nat.zero_le _⟩
  | cons t r =>
    rw [skipReadonly]
    split_ifs with h
    · exact ⟨[t], rfl, List.forall_mem_singleton.mpr (by simp_all), Nat.le_refl _⟩
    · exact ⟨[], rfl, List.forall_mem_nil _, Nat.zero_le _⟩

/-- Only before a colon a property is not refused. -/
theorem exists_colon {owner : String} {ts : List Token}
    (h : refusedProperty? owner (headKind ts) = none) :
    ∃ colon r, ts = colon :: r ∧ colon.kind = .mark .colon := by
  cases ts with
  | nil => cases h
  | cons t r =>
    rw [headKind, refusedProperty?.eq_def] at h
    split at h
    · cases h
    · cases h
    · cases h
    · next hcolon => exact ⟨t, r, rfl, hcolon⟩
    · cases h

theorem takes_property (file : Path) (record : String) (ts : List Token) :
    (property file record ts).Takes ts fun taken p =>
      ∃ name, PropertyTokens file p name taken := by
  rw [property]
  dsimp only
  obtain ⟨front, hfront, hreadonly, hlength⟩ := exists_skipReadonly ts
  refine .ite (fun _ => .fault) fun _ => ?_
  refine .of_append hfront ((takes_takeMemberName _).andThen fun taken name r₁ h₁ htaken => ?_)
  obtain ⟨rfl, hname⟩ := htaken
  cases hrefused : refusedProperty? (record ++ "." ++ name.value) (headKind r₁) with
  | some cause => exact .fault
  | none =>
    obtain ⟨colon, r, rfl, hcolon⟩ := exists_colon hrefused
    refine .cons (Part.Takes.andThen (takesType_typeExpr _ r) fun type t r₂ h₂ htype => ?_)
    refine .read [] ⟨name, ?_⟩
    rw [List.append_nil]
    exact .mk hreadonly hlength hname hcolon htype rfl rfl

theorem takes_properties (file : Path) (record : String) (ts : List Token) :
    (properties file record ts).Takes ts fun taken ps =>
      ∃ names, BodyTokens file ps names taken := by
  cases ts with
  | nil =>
    rw [properties]
    exact .fault
  | cons t r =>
    rw [properties]
    refine .ite (fun _ => .read [] ⟨[], .nil⟩) fun _ => ?_
    refine (takes_property file record (t :: r)).andThen fun taken p r₁ h₁ hp => ?_
    obtain ⟨name, hp⟩ := hp
    obtain ⟨separators, hskip, hseparators⟩ :=
      exists_skipKinds [.mark .semicolon, .mark .comma] r₁
    refine .of_append hskip ((takes_properties file record _).andThen fun more ps r₂ h₂ hps => ?_)
    obtain ⟨names, hps⟩ := hps
    refine .read [] ⟨name :: names, ?_⟩
    rw [List.append_nil]
    exact .cons hp hseparators hps
termination_by ts.length
decreasing_by
  have := length_skipKinds_le [.mark .semicolon, .mark .comma] r₁
  simp at h₁ ⊢
  omega

/-! ## Interfaces and enumerations -/

/-- Tokens up to the angle bracket that closes, with so many more in front of it. -/
inductive ClosesAngles : Nat → List Token → Prop
  | last {t} : t.kind = .mark .closeAngle → ClosesAngles 0 [t]
  | closing {depth t ts} : t.kind = .mark .closeAngle → ClosesAngles depth ts →
      ClosesAngles (depth + 1) (t :: ts)
  | opening {depth t ts} : t.kind = .mark .openAngle → ClosesAngles (depth + 1) ts →
      ClosesAngles depth (t :: ts)
  | other {depth t ts} : t.kind ≠ .mark .openAngle → t.kind ≠ .mark .closeAngle →
      ClosesAngles depth ts → ClosesAngles depth (t :: ts)

inductive ParameterTokens : List String → List Token → Prop
  | nil : ParameterTokens [] []
  | cons {name names t ts} : t.kind = .mark .openAngle → ClosesAngles 0 ts →
      ParameterTokens (name :: names) (t :: ts)

theorem ClosesAngles.name {t : Token} {ts : List Token} {depth : Nat} (h : ClosesAngles depth ts)
    (hname : t.kind.isName = true) : ClosesAngles depth (t :: ts) := by
  refine .other ?_ ?_ h
  · intro hkind
    rw [hkind] at hname
    cases hname
  · intro hkind
    rw [hkind] at hname
    cases hname

theorem takes_moreParameters (depth : Nat) (ts : List Token) :
    (moreParameters depth ts).Takes ts fun taken _ => ClosesAngles depth taken := by
  cases ts with
  | nil =>
    rw [moreParameters]
    exact .fault
  | cons t r =>
    rw [moreParameters]
    -- Behind an opening bracket one more is to be closed; at depth 0 the next one is the last.
    refine .ite (fun hopen => .cons ?_) fun hopen => .ite (fun hclose => ?_) fun hclose => ?_
    · exact ((takes_moreParameters _ r).imp fun _ _ h => .opening hopen h).weaken
    · refine .ite (fun hdepth => ?_) fun hdepth => .cons ?_
      · exact .read [t] (hdepth ▸ .last hclose)
      · obtain ⟨depth, rfl⟩ := Nat.exists_eq_succ_of_ne_zero hdepth
        exact ((takes_moreParameters _ r).imp fun _ _ h => .closing hclose h).weaken
    · refine .ite (fun hcomma => .cons ?_) fun _ => .cons ?_
      · have hdepth : depth = 0 := by simp_all
        refine (takes_takeName r).andThen fun taken name r₁ h₁ hname => ?_
        obtain ⟨rfl, hname⟩ := hname
        refine ((takes_moreParameters 0 r₁).map fun more names h => ?_).weaken
        exact hdepth ▸ .other hopen hclose (h.name hname)
      · exact ((takes_moreParameters _ r).imp fun _ _ h => .other hopen hclose h).weaken
termination_by ts.length
decreasing_by
  all_goals simp
  all_goals omega

theorem takes_typeParameters (ts : List Token) :
    (typeParameters ts).Takes ts fun taken names => ParameterTokens names taken := by
  cases ts with
  | nil => exact .read [] .nil
  | cons t r =>
    rw [typeParameters]
    refine .ite (fun hopen => .cons ?_) fun _ => .read [] .nil
    refine (takes_takeName r).andThen fun taken name r₁ h₁ hname => ?_
    obtain ⟨rfl, hname⟩ := hname
    refine ((takes_moreParameters 0 r₁).map fun more names h => ?_).weaken
    exact .cons hopen (h.name hname)

/-- The tokens of an interface without its modifiers, with the names of its properties among them.
-/
inductive InterfaceTokens (file : Path) (r : Record) (names : List Token) : List Token → Prop
  | mk {keyword name parameters opening body closing} : keyword.kind = .keyword .interfaceWord →
      name.kind.isName = true → r.name = name.value →
      ParameterTokens r.typeParameters parameters → opening.kind = .mark .openBrace →
      BodyTokens file r.properties names body → closing.kind = .mark .closeBrace →
      InterfaceTokens file r names
        (keyword :: name :: (parameters ++ opening :: (body ++ [closing])))

inductive EnumerationTokens (e : Enumeration) : List Token → Prop
  | mk {keyword name opening body closing} : keyword.kind = .keyword .enumWord →
      name.kind.isName = true → e.name = name.value → opening.kind = .mark .openBrace →
      closing.kind = .mark .closeBrace →
      EnumerationTokens e (keyword :: name :: opening :: (body ++ [closing]))

theorem takes_interface (file : Path) (start : Position) (ts : List Token) :
    (interface file start ts).Takes ts fun taken r =>
      (∃ names, InterfaceTokens file r names taken) ∧ r.location = some (locate file start) := by
  rw [interface]
  refine (takes_takeKind _ ts).andThen fun _ keyword r₁ h₁ hkeyword => ?_
  refine (takes_takeName r₁).andThen fun _ name r₂ h₂ hname => ?_
  refine (takes_typeParameters r₂).andThen fun parameters _ r₃ h₃ hparameters => ?_
  refine .ite (fun _ => .fault) fun _ => ?_
  refine (takes_takeKind _ r₃).andThen fun _ opening r₄ h₄ hopening => ?_
  refine (takes_properties file _ r₄).andThen fun body ps r₅ h₅ hbody => ?_
  refine (takes_takeKind _ r₅).andThen fun _ closing r₆ h₆ hclosing => .read [] ?_
  obtain ⟨rfl, hkeyword⟩ := hkeyword
  obtain ⟨rfl, hname⟩ := hname
  obtain ⟨rfl, hopening⟩ := hopening
  obtain ⟨names, hbody⟩ := hbody
  obtain ⟨rfl, hclosing⟩ := hclosing
  refine ⟨⟨names, ?_⟩, rfl⟩
  simpa using InterfaceTokens.mk hkeyword hname rfl hparameters hopening hbody hclosing

theorem takes_initializerParts (depth : Int) (ts : List Token) :
    (initializerParts depth ts).Takes ts fun _ _ => True := by
  induction ts generalizing depth with
  | nil => exact .fault
  | cons t r ih =>
    rw [initializerParts]
    exact .ite (fun _ => .read [] trivial) fun _ =>
      .cons ((ih _).map fun _ _ => id).weaken

theorem takes_memberValue (ts : List Token) : (memberValue ts).Takes ts fun _ _ => True := by
  cases ts with
  | nil => exact .read [] trivial
  | cons t r =>
    rw [memberValue]
    refine .ite (fun _ => .cons ?_) fun _ => .read [] trivial
    split
    · next value r₁ hlone =>
      rw [loneString?.eq_def] at hlone
      cases r with
      | nil => cases hlone
      | cons t' r =>
        dsimp only at hlone
        split_ifs at hlone
        cases hlone
        exact .read [t'] trivial
    · have hinitializer : (initializer r).Takes r fun _ _ => True :=
        (takes_initializerParts 0 r).map fun _ _ => id
      exact (hinitializer.map fun _ _ _ => trivial).weaken

theorem takes_memberEnd (ts : List Token) : (memberEnd ts).Takes ts fun _ _ => True := by
  rw [memberEnd]
  exact .ite (fun _ => .read [] trivial) fun _ =>
    ((takes_takeKind _ ts).map fun _ _ _ => trivial).weaken

theorem takes_members (enumeration : String) (ts : List Token) :
    (members enumeration ts).Takes ts fun _ _ => True := by
  cases ts with
  | nil =>
    rw [members]
    exact .fault
  | cons t r =>
    rw [members]
    refine .ite (fun _ => .read [] trivial) fun _ => ?_
    refine (takes_takeMemberName (t :: r)).andThen fun _ name r₁ h₁ _ => ?_
    refine (takes_memberValue r₁).andThen fun _ value r₂ h₂ _ => ?_
    refine (takes_memberEnd r₂).andThen fun _ _ r₃ h₃ _ => ?_
    exact (takes_members enumeration r₃).andThen fun _ ms r₄ h₄ _ => .read [] trivial
termination_by ts.length
decreasing_by simp at h₁ ⊢; omega

theorem takes_enumeration (file : Path) (start : Position) (ts : List Token) :
    (enumeration file start ts).Takes ts fun taken e =>
      EnumerationTokens e taken ∧ e.location = some (locate file start) := by
  rw [enumeration]
  refine (takes_takeKind _ ts).andThen fun _ keyword r₁ h₁ hkeyword => ?_
  refine (takes_takeName r₁).andThen fun _ name r₂ h₂ hname => ?_
  refine (takes_takeKind _ r₂).andThen fun _ opening r₃ h₃ hopening => ?_
  refine (takes_members _ r₃).andThen fun body ms r₄ h₄ _ => ?_
  refine (takes_takeKind _ r₄).andThen fun _ closing r₅ h₅ hclosing => .read [] ?_
  obtain ⟨rfl, hkeyword⟩ := hkeyword
  obtain ⟨rfl, hname⟩ := hname
  obtain ⟨rfl, hopening⟩ := hopening
  obtain ⟨rfl, hclosing⟩ := hclosing
  refine ⟨?_, rfl⟩
  simpa using EnumerationTokens.mk hkeyword hname rfl hopening hclosing

/-! ## Declarations -/

inductive DeclarationTokens (file : Path) : Declaration → List Token → Prop
  | record {r words names ts} : (∀ t ∈ words, t.kind ∈ modifiers) →
      InterfaceTokens file r names ts →
      DeclarationTokens file (.record r) (words ++ ts)
  | enumeration {e words consts ts} : (∀ t ∈ words, t.kind ∈ modifiers) →
      (∀ t ∈ consts, t.kind = .keyword .constWord) → consts.length ≤ 1 → EnumerationTokens e ts →
      DeclarationTokens file (.enumeration e) (words ++ (consts ++ ts))
  | other {o words keyword ts} : (∀ t ∈ words, t.kind ∈ modifiers) →
      otherKind? keyword.kind = some o.kind →
      DeclarationTokens file (.other o) (words ++ keyword :: ts)

theorem takes_otherDeclaration (file : Path) (start : Position) (kind : String) (keyword : Token)
    (ts : List Token) : (otherDeclaration file start kind keyword ts).Takes ts fun _ o =>
      o.kind = kind ∧ o.location = some (locate file start) := by
  obtain ⟨passed, hpassed⟩ :=
    (suffix_passOver (endsWithBody kind) keyword.position.line ⟨0, none, false⟩ _).trans
      (suffix_skipClassWord keyword ts)
  rintro o rest le ⟨⟩
  exact ⟨passed, hpassed.symm, rfl, rfl⟩

/-- A declaration is read from its modifiers on, and located at its first token. -/
theorem takes_declaration (file : Path) (first : Token) (r : List Token) :
    (declaration file (first :: r)).Takes (first :: r) fun taken d =>
      DeclarationTokens file d taken ∧ d.location = some (locate file first.position) := by
  obtain ⟨words, hwords, hmodifiers⟩ := exists_skipKinds modifiers (first :: r)
  cases hr : skipKinds modifiers (first :: r) with
  | nil =>
    rw [declaration_of_nil file hr]
    exact .fault
  | cons t r₁ =>
    have hlength := length_skipKinds_le modifiers (first :: r)
    rw [hr] at hwords hlength
    rw [declaration_of_cons file hr (Nat.le_sub_one_of_lt hlength)]
    refine .of_append hwords (.ite (fun _ => ?_) fun _ => .ite (fun _ => ?_) fun _ =>
      .ite (fun hconst => .cons ?_) fun _ => ?_)
    · refine ((takes_interface file first.position (t :: r₁)).map fun taken r h => ?_).weaken
      obtain ⟨⟨names, htokens⟩, hlocation⟩ := h
      exact ⟨.record hmodifiers htokens, hlocation⟩
    · refine ((takes_enumeration file first.position (t :: r₁)).map fun taken e h => ?_).weaken
      exact ⟨.enumeration hmodifiers (List.forall_mem_nil _) (Nat.zero_le _) h.1, h.2⟩
    · refine ((takes_enumeration file first.position r₁).map fun taken e h => ?_).weaken
      have hword : ∀ t' ∈ [t], t'.kind = .keyword .constWord := by simp_all
      exact ⟨.enumeration hmodifiers hword (Nat.le_refl _) h.1, h.2⟩
    · cases hkind : otherKind? t.kind with
      | none => exact .fault
      | some kind =>
        refine .cons ((takes_otherDeclaration file first.position kind t r₁).map
          fun taken o h => ?_).weaken
        exact ⟨.other hmodifiers (h.1 ▸ hkind), h.2⟩

/-- Declarations with the tokens that they are read from, and semicolons between them. -/
inductive Laid (file : Path) : List Token → List (Declaration × List Token) → Prop
  | done {ts} : (∀ t ∈ ts, t.kind = .mark .semicolon) → Laid file ts []
  | declaration {semicolons first block rest d parts le} :
      (∀ t ∈ semicolons, t.kind = .mark .semicolon) → DeclarationTokens file d (first :: block) →
      d.location = some (locate file first.position) →
      declaration file (first :: block ++ rest) = .read d rest le → Laid file rest parts →
      Laid file (semicolons ++ (first :: block ++ rest)) ((d, first :: block) :: parts)

theorem DeclarationTokens.ne_nil {file : Path} {d : Declaration} {ts : List Token}
    (h : DeclarationTokens file d ts) : ts ≠ [] := by
  cases h with
  | record _ h | enumeration _ _ _ h =>
    cases h
    simp
  | other => simp

theorem laid_of_declarations (file : Path) {ts rest : List Token} {ds : List Declaration}
    {le : rest.length ≤ ts.length} (h : declarations file ts = .read ds rest le) :
    ∃ parts, Laid file ts parts ∧ parts.map Prod.fst = ds := by
  obtain ⟨semicolons, hsemicolons, hkinds⟩ := exists_skipKinds [.mark .semicolon] ts
  replace hkinds : ∀ t ∈ semicolons, t.kind = .mark .semicolon := by simpa using hkinds
  cases hr : skipKinds [.mark .semicolon] ts with
  | nil =>
    rw [declarations_of_nil file hr] at h
    cases h
    rw [hr, List.append_nil] at hsemicolons
    exact ⟨[], .done (hsemicolons ▸ hkinds), rfl⟩
  | cons first r =>
    have hlength := length_skipKinds_le [.mark .semicolon] ts
    rw [hr] at hsemicolons hlength
    rw [declarations_of_cons file hr hlength] at h
    cases hread : declaration file (first :: r) with
    | fault cause rest =>
      rw [hread] at h
      cases h
    | read d r₁ h₁ =>
      -- A declaration takes a token at least, so its first one is the one it is located at.
      obtain ⟨block, hblock, htokens, hlocation⟩ := takes_declaration file first r d r₁ h₁ hread
      obtain ⟨t, block, rfl⟩ := List.exists_cons_of_ne_nil htokens.ne_nil
      obtain ⟨rfl, rfl⟩ := List.cons.inj hblock
      rw [hread] at h
      cases hmore : declarations file r₁ with
      | fault cause rest =>
        simp only [Part.andThen, hmore] at h
        cases h
      | read ds r₂ h₂ =>
        simp only [Part.andThen, hmore] at h
        cases h
        obtain ⟨parts, hparts, rfl⟩ := laid_of_declarations file hmore
        subst hsemicolons
        exact ⟨_, .declaration hkinds htokens hlocation hread hparts, rfl⟩
termination_by ts.length
decreasing_by
  simp at hlength h₁
  omega

end Source

end SchemaGrammar
