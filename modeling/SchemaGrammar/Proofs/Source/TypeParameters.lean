import SchemaGrammar.Proofs.Source.Brackets
import SchemaGrammar.Schema.Elements

/-!
# Names of type parameters

The names of a parameter list follow its opening bracket and its own commas. What a parameter
extends or defaults to may hold commas between brackets. The reader counts angle brackets only, so
it takes a comma in other brackets for one of the list unless angle brackets are around it as well.
-/
namespace SchemaGrammar.Source

def typeBrackets : List Mark := .openAngle :: braces

structure IsParameterType (ts : List Token) : Prop where
  bracketed : Bracketed typeBrackets ts
  kind_ne_comma : ∀ before t, Outside typeBrackets ts before t → t.kind ≠ .mark .comma

/-- Every comma stands between angle brackets, `depth` of them being open in front. -/
def CommasInAngles (depth : Nat) (ts : List Token) : Prop :=
  ∀ before t behind, ts = before ++ t :: behind → t.kind = .mark .comma →
    count (.mark .closeAngle) before < depth + count (.mark .openAngle) before

/-- A kind of token that the reader of a list passes over wherever it stands. -/
def IsPassed (kind : TokenKind) : Prop :=
  kind ≠ .mark .openAngle ∧ kind ≠ .mark .closeAngle ∧ kind ≠ .mark .comma

instance : DecidablePred IsPassed := fun _ => inferInstanceAs (Decidable (_ ∧ _ ∧ _))

inductive TypeClause (good : List Token → Prop) (kind : TokenKind) : List Token → Prop
  | none : TypeClause good kind []
  | some {word type} : word.kind = kind → good type → TypeClause good kind (word :: type)

/-- The tokens of one or more parameters up to the closing bracket, with the names of the
parameters; the types among them are good. -/
inductive ParameterList (good : List Token → Prop) : List Token → List String → Prop
  | last {name bound standard closing} : name.kind.isName = true →
      TypeClause good (.keyword .extendsWord) bound →
      TypeClause good (.mark .equals) standard → closing.kind = .mark .closeAngle →
      ParameterList good (name :: (bound ++ (standard ++ [closing]))) [name.value]
  | cons {name bound standard comma names ts} : name.kind.isName = true →
      TypeClause good (.keyword .extendsWord) bound →
      TypeClause good (.mark .equals) standard → comma.kind = .mark .comma →
      ParameterList good ts names →
      ParameterList good (name :: (bound ++ (standard ++ comma :: ts))) (name.value :: names)

/-! ## Scanning -/

section Scanning

variable {depth : Nat} {t : Token} {ts r rest : List Token} {names : List String}

theorem CommasInAngles.left {ts' : List Token} (h : CommasInAngles depth (ts ++ ts')) :
    CommasInAngles depth ts := by
  rintro before t behind rfl hkind
  exact h before t (behind ++ ts') (by simp) hkind

theorem CommasInAngles.right {depth' : Nat} {ts' : List Token}
    (h : CommasInAngles depth (ts ++ ts'))
    (hdepth : depth + count (.mark .openAngle) ts = depth' + count (.mark .closeAngle) ts) :
    CommasInAngles depth' ts' := by
  rintro before t behind rfl hkind
  have hlt := h (ts ++ before) t behind (by simp) hkind
  rw [count_append, count_append] at hlt
  omega

theorem CommasInAngles.tail (h : CommasInAngles depth (t :: ts))
    (hopen : t.kind ≠ .mark .openAngle) (hclose : t.kind ≠ .mark .closeAngle) :
    CommasInAngles depth ts := by
  have h' : CommasInAngles depth ([t] ++ ts) := h
  apply h'.right
  simp [count, hopen, hclose]

/-- In front of the tokens of a group and of those behind it, angle brackets are open as many as the
group has around them. -/
theorem CommasInAngles.of_angles {opening closing : Token} {inner : List Token}
    (h : CommasInAngles depth (opening :: (inner ++ closing :: ts)))
    (hopening : opening.kind = .mark .openAngle) (hclosing : closing.kind = .mark .closeAngle)
    (hinner : count (.mark .openAngle) inner = count (.mark .closeAngle) inner) :
    CommasInAngles (depth + 1) inner ∧ CommasInAngles depth ts := by
  have hgroup : CommasInAngles depth ([opening] ++ (inner ++ ([closing] ++ ts))) := h
  have hinside : CommasInAngles (depth + 1) (inner ++ ([closing] ++ ts)) := by
    apply hgroup.right
    simp [count, hopening]
  have hbehind : CommasInAngles depth ts := by
    rw [← List.append_assoc] at hinside
    apply hinside.right
    simp [count_append, count_cons, hclosing, hinner]
    omega
  exact ⟨hinside.left, hbehind⟩

theorem CommasInAngles.of_group {opening closing : Token} {inner : List Token}
    (h : CommasInAngles depth (opening :: (inner ++ closing :: ts)))
    (hopening : IsPassed opening.kind) (hclosing : IsPassed closing.kind)
    (hinner : count (.mark .openAngle) inner = count (.mark .closeAngle) inner) :
    CommasInAngles depth inner ∧ CommasInAngles depth ts := by
  have hinside := h.tail hopening.1 hopening.2.1
  have hbehind : CommasInAngles depth (closing :: ts) := hinside.right (by omega)
  exact ⟨hinside.left, hbehind.tail hclosing.1 hclosing.2.1⟩

theorem isPassed_of_ne_openAngle {m m' : Mark} (hm : m ∈ typeBrackets) (hm' : m' ∈ m.partner?)
    (hne : m ≠ .openAngle) : IsPassed (.mark m) ∧ IsPassed (.mark m') := by
  have hbrace : ∀ m ∈ typeBrackets, m ≠ .openAngle →
      IsPassed (.mark m) ∧ ∀ m' ∈ m.partner?, IsPassed (.mark m') := by decide
  obtain ⟨hpassed, hpartner⟩ := hbrace m hm hne
  exact ⟨hpassed, hpartner m' hm'⟩

theorem CommasInAngles.kind_ne (h : CommasInAngles 0 (t :: ts)) : t.kind ≠ .mark .comma := by
  intro hkind
  have hlt := h [] t ts rfl hkind
  cases hlt

theorem gives_moreParameters_opening (ht : t.kind = .mark .openAngle)
    (h : (moreParameters (depth + 1) r).Gives names rest) :
    (moreParameters depth (t :: r)).Gives names rest := by
  rw [moreParameters, if_pos ht]
  exact h.weaken

theorem gives_moreParameters_closing (ht : t.kind = .mark .closeAngle)
    (h : (moreParameters depth r).Gives names rest) :
    (moreParameters (depth + 1) (t :: r)).Gives names rest := by
  rw [moreParameters, if_neg (by simp [ht]), if_pos ht, if_neg (Nat.succ_ne_zero depth)]
  exact h.weaken

theorem gives_moreParameters_token (hopen : t.kind ≠ .mark .openAngle)
    (hclose : t.kind ≠ .mark .closeAngle) (hcomma : depth = 0 → t.kind ≠ .mark .comma)
    (h : (moreParameters depth r).Gives names rest) :
    (moreParameters depth (t :: r)).Gives names rest := by
  have hsplit : ¬ (decide (t.kind = .mark .comma) && decide (depth = 0)) = true := by
    simpa using fun hkind hdepth => hcomma hdepth hkind
  rw [moreParameters, if_neg hopen, if_neg hclose, if_neg hsplit]
  exact h.weaken

theorem gives_moreParameters_passed (ht : IsPassed t.kind)
    (h : (moreParameters depth r).Gives names rest) :
    (moreParameters depth (t :: r)).Gives names rest :=
  gives_moreParameters_token ht.1 ht.2.1 (fun _ => ht.2.2) h

theorem gives_moreParameters_last (ht : t.kind = .mark .closeAngle) (r : List Token) :
    (moreParameters 0 (t :: r)).Gives [] r := by
  rw [moreParameters, if_neg (by simp [ht]), if_pos ht, if_pos rfl]
  exact .read

theorem gives_moreParameters_comma {name : Token} (ht : t.kind = .mark .comma)
    (hname : name.kind.isName = true) (h : (moreParameters 0 r).Gives names rest) :
    (moreParameters 0 (t :: name :: r)).Gives (name.value :: names) rest := by
  rw [moreParameters, if_neg (by simp [ht]), if_neg (by simp [ht]), if_pos (by simp [ht])]
  exact (gives_takeName hname _).andThen fun _ => (h.map _).weaken

/-- A bracketed type is read through if it has commas between angle brackets only. -/
theorem gives_moreParameters_bracketed {rest' : List Token} (h : Bracketed typeBrackets ts)
    (hcommas : CommasInAngles depth ts) (hrest : (moreParameters depth rest).Gives names rest') :
    (moreParameters depth (ts ++ rest)).Gives names rest' := by
  induction h generalizing depth rest with
  | nil => exact hrest
  | @token t ts ht _ ih =>
    have hopen : t.kind ≠ .mark .openAngle := ne_mark_of_isBracket ht (by decide)
    have hclose : t.kind ≠ .mark .closeAngle := ne_mark_of_isBracket ht (by decide)
    apply gives_moreParameters_token hopen hclose
    · rintro rfl
      exact hcommas.kind_ne
    · exact ih (hcommas.tail hopen hclose) hrest
  | @group m m' opening closing ts inner hm hm' hopening hclosing hinner _ ihinner ihts =>
    have heq : opening :: (inner ++ closing :: ts) ++ rest =
        opening :: (inner ++ closing :: (ts ++ rest)) := by simp
    have hcount := hinner.count_eq (m := .openAngle) (by decide) rfl
    rw [heq]
    by_cases hangle : m = .openAngle
    · subst hangle
      cases hm'
      obtain ⟨hinside, hbehind⟩ := hcommas.of_angles hopening hclosing hcount
      apply gives_moreParameters_opening hopening
      apply ihinner hinside
      apply gives_moreParameters_closing hclosing
      exact ihts hbehind hrest
    · obtain ⟨hpassed, hpassed'⟩ := isPassed_of_ne_openAngle hm hm' hangle
      rw [← hopening] at hpassed
      rw [← hclosing] at hpassed'
      obtain ⟨hinside, hbehind⟩ := hcommas.of_group hpassed hpassed' hcount
      apply gives_moreParameters_passed hpassed
      apply ihinner hinside
      apply gives_moreParameters_passed hpassed'
      exact ihts hbehind hrest

end Scanning

/-! ## Lists of parameters -/

/-- A type among parameters that the reader takes for one: no comma of it is for the list. -/
def IsScannedType (ts : List Token) : Prop := IsParameterType ts ∧ CommasInAngles 0 ts

theorem TypeClause.gives_moreParameters {m : TokenKind} {ts rest rest' : List Token}
    {names : List String} (h : TypeClause IsScannedType m ts)
    (hm : IsPassed m)
    (hrest : (moreParameters 0 rest).Gives names rest') :
    (moreParameters 0 (ts ++ rest)).Gives names rest' := by
  cases h with
  | none => exact hrest
  | @some word type hword htype =>
    rw [← hword] at hm
    rw [List.cons_append]
    apply gives_moreParameters_passed hm
    exact gives_moreParameters_bracketed htype.1.bracketed htype.2 hrest

theorem gives_moreParameters_clauses {bound standard ts rest rest' : List Token}
    {names : List String} (hbound : TypeClause IsScannedType (.keyword .extendsWord) bound)
    (hstandard : TypeClause IsScannedType (.mark .equals) standard)
    (hrest : (moreParameters 0 (ts ++ rest)).Gives names rest') :
    (moreParameters 0 (bound ++ (standard ++ ts) ++ rest)).Gives names rest' := by
  rw [List.append_assoc, List.append_assoc]
  apply hbound.gives_moreParameters (by decide)
  exact hstandard.gives_moreParameters (by decide) hrest

/-- The first name is read, and then those behind commas up to the closing bracket. -/
theorem ParameterList.exists_gives {names : List String} {ts : List Token}
    (h : ParameterList IsScannedType ts names) (rest : List Token) :
    ∃ name others more, ts = name :: more ∧ names = name.value :: others ∧
      name.kind.isName = true ∧ (moreParameters 0 (more ++ rest)).Gives others rest := by
  induction h with
  | @last name bound standard closing hname hbound hstandard hclosing =>
    refine ⟨name, [], _, rfl, rfl, hname, ?_⟩
    have hend := gives_moreParameters_last hclosing rest
    exact gives_moreParameters_clauses hbound hstandard hend
  | @cons name bound standard comma names ts hname hbound hstandard hcomma _ ih =>
    obtain ⟨name', others, more, rfl, rfl, hname', hmore⟩ := ih
    refine ⟨name, name'.value :: others, _, rfl, rfl, hname, ?_⟩
    have hnext := gives_moreParameters_comma hcomma hname' hmore
    exact gives_moreParameters_clauses hbound hstandard hnext

theorem ParameterList.names_ne_nil {good : List Token → Prop} {names : List String}
    {ts : List Token} (h : ParameterList good ts names) : names ≠ [] := by
  cases h <;> simp

theorem gives_typeParameters {opening : Token} (hopening : opening.kind = .mark .openAngle)
    {names : List String} {ts : List Token} (h : ParameterList IsScannedType ts names)
    (rest : List Token) : (typeParameters (opening :: (ts ++ rest))).Gives names rest := by
  obtain ⟨name, others, more, rfl, rfl, hname, hmore⟩ := h.exists_gives rest
  rw [List.cons_append, typeParameters, if_pos hopening]
  exact (gives_takeName hname _).andThen fun _ => (hmore.map _).weaken

/-- The list of an interface is read to its closing bracket, and just its parameters are found;
they are what compilation reports of the interface. -/
theorem typeParameters_of_list {opening : Token} (hopening : opening.kind = .mark .openAngle)
    {names : List String} {ts : List Token} (hts : ParameterList IsScannedType ts names)
    (rest : List Token) :
    (typeParameters (opening :: (ts ++ rest))).Gives names rest ∧
    ∀ file start keyword name r rest',
      (interface file start (keyword :: name :: opening :: (ts ++ rest))).Gives r rest' →
      r.typeParameters = names ∧ ∀ scope,
        r.elements scope =
          .error (.typeParameters name.value names (some (locate file start))) := by
  have hparameters := gives_typeParameters hopening hts rest
  refine ⟨hparameters, ?_⟩
  intro file start keyword name r rest' hr
  rw [interface] at hr
  obtain ⟨t, r₁, le₁, hkeyword, hr⟩ := hr.of_andThen
  obtain ⟨rfl, rfl⟩ := eq_of_gives_takeKind hkeyword
  obtain ⟨t', r₂, le₂, hname, hr⟩ := hr.of_andThen
  obtain ⟨rfl, rfl⟩ := eq_of_gives_takeName hname
  obtain ⟨names', r₃, le₃, hlist, hr⟩ := hr.of_andThen
  obtain ⟨rfl, rfl⟩ := hparameters.unique hlist
  split_ifs at hr
  · exact absurd hr Part.Gives.not_fault
  · obtain ⟨opening', r₄, le₄, hopening', hr⟩ := hr.of_andThen
    obtain ⟨ps, r₅, le₅, hproperties, hr⟩ := hr.of_andThen
    obtain ⟨closing, r₆, le₆, hclosing, hr⟩ := hr.of_andThen
    obtain ⟨le, heq⟩ := hr
    cases heq
    refine ⟨rfl, ?_⟩
    intro scope
    rw [Record.elements, if_pos hts.names_ne_nil]
    rfl

def mapTokens : List Token :=
  [⟨.identifier, "Map", .start⟩, ⟨.mark .openAngle, "<", .start⟩, ⟨.identifier, "A", .start⟩,
    ⟨.mark .comma, ",", .start⟩, ⟨.identifier, "B", .start⟩, ⟨.mark .closeAngle, ">", .start⟩]

theorem isScannedType_mapTokens : IsScannedType mapTokens := by
  refine ⟨⟨.token rfl (.group [_, _, _] (m := .openAngle) (by decide) rfl rfl rfl ?_ .nil),
    ?_⟩, ?_⟩
  · exact .token rfl (.token rfl (.token rfl .nil))
  · intro before t ht
    exact ht.kind_ne_of_count (m := .openAngle) (by decide) rfl (by decide)
  · intro before t behind hsplit
    exact of_forall_take (P := fun before t => t.kind = .mark .comma →
      count (.mark .closeAngle) before < 0 + count (.mark .openAngle) before) (by decide) hsplit

def boundedParameters : List Token :=
  ⟨.identifier, "T", .start⟩ :: (⟨.keyword .extendsWord, "extends", .start⟩ :: mapTokens ++
    ([] ++ ⟨.mark .comma, ",", .start⟩ :: (⟨.identifier, "U", .start⟩ ::
      ([] ++ ([] ++ [⟨.mark .closeAngle, ">", .start⟩])))))

theorem typeParameters_of_boundedParameters :
    let file : Path := .ofString "a"
    let keyword : Token := ⟨.keyword .interfaceWord, "interface", .start⟩
    let name : Token := ⟨.identifier, "Box", .start⟩
    let opening : Token := ⟨.mark .openAngle, "<", .start⟩
    let rest : List Token :=
      [⟨.mark .openBrace, "\x7b", .start⟩, ⟨.mark .closeBrace, "\x7d", .start⟩]
    let r : Record := ⟨"Box", [], ["T", "U"], some (locate file .start)⟩
    ParameterList IsScannedType boundedParameters ["T", "U"] ∧
    (typeParameters (opening :: (boundedParameters ++ rest))).Gives ["T", "U"] rest ∧
    (interface file .start (keyword :: name :: opening :: (boundedParameters ++ rest))).Gives r [] ∧
    ∀ scope, r.elements scope =
      .error (.typeParameters "Box" ["T", "U"] (some (locate file .start))) := by
  intro file keyword name opening rest r
  have hopening : opening.kind = .mark .openAngle := rfl
  have hlist : ParameterList IsScannedType boundedParameters ["T", "U"] :=
    .cons rfl (.some rfl isScannedType_mapTokens) .none rfl (.last rfl .none .none rfl)
  obtain ⟨hgives, hinterface⟩ := typeParameters_of_list hopening hlist rest
  have hread : (interface file .start
      (keyword :: name :: opening :: (boundedParameters ++ rest))).Gives r [] := by
    rw [interface]
    refine (gives_takeKind rfl _).andThen fun _ => ?_
    refine (gives_takeName rfl _).andThen fun _ => ?_
    refine hgives.andThen fun _ => ?_
    rw [if_neg (by decide)]
    refine (gives_takeKind rfl _).andThen fun _ => ?_
    have hproperties : (properties file name.value [⟨.mark .closeBrace, "\x7d", .start⟩]).Gives []
        [⟨.mark .closeBrace, "\x7d", .start⟩] := by
      rw [properties, if_pos rfl]
      exact .read
    refine hproperties.andThen fun _ => ?_
    exact (gives_takeKind rfl _).andThen fun _ => .read
  exact ⟨hlist, hgives, hread, (hinterface file .start keyword name r [] hread).2⟩

def tupleTokens : List Token :=
  [⟨.mark .openBracket, "[", .start⟩, ⟨.identifier, "string", .start⟩,
    ⟨.mark .comma, ",", .start⟩, ⟨.identifier, "number", .start⟩,
    ⟨.mark .closeBracket, "]", .start⟩]

def tupleParameters : List Token :=
  ⟨.identifier, "T", .start⟩ :: ([] ++ (⟨.mark .equals, "=", .start⟩ :: tupleTokens ++
    [⟨.mark .closeAngle, ">", .start⟩]))

/-- A comma in square brackets is taken for one of the list, so that a parameter too many is found.
-/
theorem typeParameters_split_tuple :
    ParameterList IsParameterType tupleParameters ["T"] ∧
    (typeParameters (⟨.mark .openAngle, "<", .start⟩ :: tupleParameters)).Gives ["T", "number"] [] ∧
    ¬ (typeParameters (⟨.mark .openAngle, "<", .start⟩ :: tupleParameters)).Gives ["T"] [] := by
  have htuple : IsParameterType tupleTokens := by
    refine ⟨.group [_, _, _] (m := .openBracket) (by decide) rfl rfl rfl ?_ .nil, ?_⟩
    · exact .token rfl (.token rfl (.token rfl .nil))
    · intro before t ht
      exact ht.kind_ne_of_count (m := .openBracket) (by decide) rfl (by decide)
  have hread : (typeParameters (⟨.mark .openAngle, "<", .start⟩ :: tupleParameters)).Gives
      ["T", "number"] [] := by
    rw [typeParameters, if_pos rfl]
    refine (gives_takeName rfl _).andThen fun _ => (Part.Gives.map ?_ _).weaken
    -- no bracket of the tuple is counted, so its comma is met at depth 0
    apply gives_moreParameters_passed (by decide)
    apply gives_moreParameters_passed (by decide)
    apply gives_moreParameters_passed (by decide)
    apply gives_moreParameters_comma rfl rfl
    apply gives_moreParameters_passed (by decide)
    exact gives_moreParameters_last rfl []
  refine ⟨.last rfl .none (.some rfl htuple) rfl, hread, ?_⟩
  intro hlist
  have heq := (hlist.unique hread).1
  simp at heq

end SchemaGrammar.Source
