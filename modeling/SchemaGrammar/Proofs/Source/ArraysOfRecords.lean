import SchemaGrammar.Proofs.Documents.Sources
import SchemaGrammar.Proofs.Source.ArraySpellings
import SchemaGrammar.Proofs.Source.DeclaredProperties
import SchemaGrammar.Proofs.Source.TypeTokens

/-!
# Arrays of the records of a source

A property is typed as an array of a record by the name of the record with a pair of brackets, or by
`Array` with the name as its argument. It then stands for arrays of that record, and no other
alternative of a source does. The resolver does not find a name that begins outside ASCII.
-/
namespace SchemaGrammar

open Source

namespace Source

/-! ## Tokens of arrays -/

inductive ArrayTokens (record : String) : List Token → Prop
  | brackets {name opening closing} : name.kind.isName = true → name.value = record →
      opening.kind = .mark .openBracket → closing.kind = .mark .closeBracket →
      ArrayTokens record [name, opening, closing]
  | generic {array opening bar name closing} : array.kind.isName = true → array.value = "Array" →
      opening.kind = .mark .openAngle → BarTokens bar → name.kind.isName = true →
      name.value = record → closing.kind = .mark .closeAngle →
      ArrayTokens record (array :: opening :: (bar ++ [name, closing]))

/-- Only tokens of an array are read as an alternative that is one. -/
theorem AtomTokens.arrayTokens {a : TypeAtom} {ts : List Token} {record : String}
    (h : AtomTokens a ts) (ha : a.IsArrayOf record) : ArrayTokens record ts := by
  cases ha with
  | brackets hrecord =>
    obtain ⟨hname, hvalue, hpath, harguments, hbrackets⟩ := h
    cases hpath
    cases harguments
    obtain - | ⟨hopening, hclosing, hnone⟩ := hbrackets
    cases hnone
    exact .brackets hname (hvalue.trans hrecord) hopening hclosing
  | generic harray hrecord =>
    obtain ⟨hname, hvalue, hpath, harguments, hbrackets⟩ := h
    cases hpath
    cases hbrackets
    obtain - | ⟨hopening, hunion, hfurther, hclosing⟩ := harguments
    cases hfurther
    obtain ⟨hbar, hatom, halternatives⟩ := hunion
    cases halternatives
    obtain ⟨hname', hvalue', hpath', harguments', hbrackets'⟩ := hatom
    cases hpath'
    cases harguments'
    cases hbrackets'
    simp only [List.nil_append, List.append_nil, List.append_assoc, List.singleton_append]
    exact .generic hname (hvalue.trans harray) hopening hbar hname' (hvalue'.trans hrecord) hclosing

/-! ## Reading arrays -/

section Reading

variable {owner spelling : String} {ts r rest : List Token}

theorem gives_dottedNames_nil (h : headKind ts ≠ .mark .dot) :
    (dottedNames spelling ts).Gives spelling ts := by
  cases ts with
  | nil =>
    rw [dottedNames]
    exact .read
  | cons t r =>
    rw [headKind] at h
    rw [dottedNames, if_neg h]
    exact .read

theorem gives_typeArguments_nil (h : headKind ts ≠ .mark .openAngle) :
    (typeArguments owner spelling ts).Gives spelling ts := by
  cases ts with
  | nil =>
    rw [typeArguments]
    exact .read
  | cons t r =>
    rw [headKind] at h
    rw [typeArguments, if_neg h]
    exact .read

theorem gives_arrayMarks_nil (h : headKind ts ≠ .mark .openBracket) :
    (arrayMarks spelling ts).Gives spelling ts := by
  cases ts with
  | nil =>
    rw [arrayMarks]
    exact .read
  | cons t r =>
    rw [headKind] at h
    rw [arrayMarks, if_neg h]
    exact .read

theorem gives_alternatives_nil (h : headKind ts ≠ .mark .bar) :
    (alternatives owner ts).Gives [] ts := by
  cases ts with
  | nil =>
    rw [alternatives]
    exact .read
  | cons t r =>
    rw [headKind] at h
    rw [alternatives, if_neg h]
    exact .read

theorem gives_moreArguments_nil (h : headKind ts ≠ .mark .comma) :
    (moreArguments owner ts).Gives [] ts := by
  cases ts with
  | nil =>
    rw [moreArguments]
    exact .read
  | cons t r =>
    rw [headKind] at h
    rw [moreArguments, if_neg h]
    exact .read

theorem gives_typeAtom {name : Token} {spelling' : String} (hname : name.kind.isName = true)
    (hdot : headKind ts ≠ .mark .dot)
    (harguments : (typeArguments owner name.value ts).Gives spelling r)
    (hmarks : (arrayMarks spelling r).Gives spelling' rest) :
    (typeAtom owner (name :: ts)).Gives spelling' rest := by
  have hrefused : refusedType? owner (headKind (name :: ts)) = none := by
    rw [headKind]
    cases hkind : name.kind <;> simp [hkind, TokenKind.isName] at hname <;> rfl
  rw [typeAtom, hrefused]
  refine (gives_takeName hname ts).andThen fun _ => ?_
  refine (gives_dottedNames_nil hdot).andThen fun _ => ?_
  exact harguments.andThen fun _ => hmarks.weaken

theorem gives_typeAtom_word {name : Token} (hname : name.kind.isName = true)
    (h : headKind rest ∉ [.mark .dot, .mark .openAngle, .mark .openBracket]) :
    (typeAtom owner (name :: rest)).Gives name.value rest := by
  simp only [List.mem_cons, List.not_mem_nil, or_false, not_or] at h
  obtain ⟨hdot, hangle, hbracket⟩ := h
  exact gives_typeAtom hname hdot (gives_typeArguments_nil hangle) (gives_arrayMarks_nil hbracket)

theorem gives_arrayMarks_one {opening closing : Token}
    (hopening : opening.kind = .mark .openBracket)
    (hclosing : closing.kind = .mark .closeBracket) (h : headKind rest ≠ .mark .openBracket) :
    (arrayMarks spelling (opening :: closing :: rest)).Gives (spelling ++ "[]") rest := by
  rw [arrayMarks, if_pos hopening]
  refine (gives_takeKind hclosing rest).andThen fun _ => ?_
  exact (gives_arrayMarks_nil h).weaken

theorem gives_typeArguments_one {opening closing : Token} {argument : String}
    (hopening : opening.kind = .mark .openAngle) (hclosing : closing.kind = .mark .closeAngle)
    (h : (typeExpr owner ts).Gives ⟨argument, []⟩ (closing :: rest)) :
    (typeArguments owner spelling (opening :: ts)).Gives
      (spelling ++ "<" ++ ", ".intercalate [argument] ++ ">") rest := by
  rw [typeArguments, if_pos hopening]
  refine h.andThen fun _ => ?_
  refine (gives_moreArguments_nil (by simp [headKind, hclosing])).andThen fun _ => ?_
  exact (gives_takeKind hclosing rest).andThen fun _ => .read

theorem skipBar_barTokens {bar : List Token} (hbar : BarTokens bar) (h : headKind ts ≠ .mark .bar) :
    skipBar (bar ++ ts) = ts := by
  obtain ⟨hlength, hkind⟩ := hbar
  rcases bar with - | ⟨t, - | ⟨t', bar⟩⟩
  · cases ts with
    | nil => rfl
    | cons t r => exact if_neg h
  · exact if_pos (hkind t List.mem_cons_self)
  · simp at hlength

theorem gives_typeExpr {bar : List Token} (hbar : BarTokens bar) (hts : headKind ts ≠ .mark .bar)
    (hatom : (typeAtom owner ts).Gives spelling rest)
    (hrest : headKind rest ≠ .mark .bar ∧ headKind rest ≠ .mark .ampersand) :
    (typeExpr owner (bar ++ ts)).Gives ⟨spelling, []⟩ rest := by
  have hfirst : (typeAtom owner (skipBar (bar ++ ts))).Gives spelling rest := by
    rwa [skipBar_barTokens hbar hts]
  rw [typeExpr]
  refine hfirst.andThen fun _ => ?_
  refine (gives_alternatives_nil hrest.1).andThen fun _ => ?_
  rw [if_neg hrest.2]
  exact .read

/-- The tokens of an array are read as one if what follows does not belong to the type. -/
theorem exists_gives_typeAtom_array (owner : String) {record : String} (hrecord : IsName record)
    (h : ArrayTokens record ts) (hrest : headKind rest ≠ .mark .openBracket) :
    ∃ a : TypeAtom, a.IsArrayOf record ∧ (typeAtom owner (ts ++ rest)).Gives a.text rest := by
  cases h with
  | @brackets name opening closing hname hvalue hopening hclosing =>
    refine ⟨.mk ⟨record, hrecord⟩ [] [] 1, .brackets rfl, ?_⟩
    have htext : (TypeAtom.mk ⟨record, hrecord⟩ [] [] 1).text = name.value ++ "[]" := by
      simp [TypeAtom.text, TypeUnion.texts, argumentsText, hvalue]
    rw [htext]
    apply gives_typeAtom hname _ (gives_typeArguments_nil _)
      (gives_arrayMarks_one hopening hclosing hrest)
    · simp [headKind, hopening]
    · simp [headKind, hopening]
  | @generic array opening bar name closing harray hvalue hopening hbar hname hrecord' hclosing =>
    have hword : IsName "Array" := isName_of_cons rfl rfl rfl
    refine ⟨.mk ⟨"Array", hword⟩ [] [.mk (.mk ⟨record, hrecord⟩ [] [] 0) []] 0,
      .generic rfl rfl, ?_⟩
    have htext : (TypeAtom.mk ⟨"Array", hword⟩ [] [.mk (.mk ⟨record, hrecord⟩ [] [] 0) []] 0).text =
        array.value ++ "<" ++ ", ".intercalate [name.value] ++ ">" := by
      simp [TypeAtom.text, TypeUnion.texts, TypeUnion.text, TypeAtom.texts, argumentsText, hvalue,
        hrecord', ← String.append_assoc]
    have hatom : (typeAtom owner (name :: closing :: rest)).Gives name.value (closing :: rest) :=
      gives_typeAtom_word hname (by simp [headKind, hclosing])
    have hfirst : headKind (name :: closing :: rest) ≠ .mark .bar :=
      IsMemberName.ne_mark (.inr hname) .bar
    have hargument := gives_typeExpr hbar hfirst hatom (by simp [headKind, hclosing])
    have hdot : headKind (opening :: (bar ++ name :: closing :: rest)) ≠ .mark .dot := by
      simp [headKind, hopening]
    have hts : array :: opening :: (bar ++ [name, closing]) ++ rest =
        array :: opening :: (bar ++ name :: closing :: rest) := by simp
    rw [htext, hts]
    exact gives_typeAtom harray hdot (gives_typeArguments_one hopening hclosing hargument)
      (gives_arrayMarks_nil hrest)

def ReadonlyTokens (ts : List Token) : Prop :=
  ts.length ≤ 1 ∧ ∀ t ∈ ts, t.kind = .keyword .readonlyWord

theorem skipReadonly_readonlyTokens {front : List Token} {name colon : Token}
    (hfront : ReadonlyTokens front) (hname : IsMemberName name.kind)
    (hcolon : colon.kind = .mark .colon) :
    skipReadonly (front ++ name :: colon :: ts) = name :: colon :: ts := by
  obtain ⟨hlength, hreadonly⟩ := hfront
  rcases front with - | ⟨t, - | ⟨t', front⟩⟩
  · simp [skipReadonly, headKind, hcolon]
  · have hkind := hreadonly t List.mem_cons_self
    simp [skipReadonly, headKind, hkind, hname.ne_mark]
  · simp at hlength

theorem gives_property {file : Path} {record : String} {front : List Token} {name colon : Token}
    {t : TypeExpr} (hfront : ReadonlyTokens front)
    (hname : IsMemberName name.kind) (hcolon : colon.kind = .mark .colon)
    (htype : (typeExpr (record ++ "." ++ name.value) ts).Gives t rest) :
    (property file record (front ++ name :: colon :: ts)).Gives
      ⟨name.value, t, some (locate file name.position)⟩ rest := by
  have hskip : skipReadonly (front ++ name :: colon :: ts) = name :: colon :: ts :=
    skipReadonly_readonlyTokens hfront hname hcolon
  have hbracket : headKind (skipReadonly (front ++ name :: colon :: ts)) ≠ .mark .openBracket := by
    rw [hskip]
    exact hname.ne_mark _
  have hread : (takeMemberName (skipReadonly (front ++ name :: colon :: ts))).Gives name
      (colon :: ts) := by
    rw [hskip]
    exact gives_takeMemberName hname _
  have hrefused :
      refusedProperty? (record ++ "." ++ name.value) (headKind (colon :: ts)) = none := by
    rw [headKind, hcolon]
    rfl
  rw [property]
  dsimp only
  rw [if_neg hbracket]
  refine hread.andThen fun _ => ?_
  rw [hrefused]
  exact htype.andThen fun _ => .read

end Reading

/-! ## Properties that are arrays -/

/-- The tokens of a property whose type is an array of the record, before `rest`. -/
inductive ArrayPropertyTokens (record : String) (name : Token) (rest : List Token) :
    List Token → Prop
  | mk {front colon bar type} : ReadonlyTokens front → IsMemberName name.kind →
      colon.kind = .mark .colon → BarTokens bar → ArrayTokens record type →
      headKind rest ∉ [.mark .openBracket, .mark .bar, .mark .ampersand] →
      ArrayPropertyTokens record name rest (front ++ name :: colon :: (bar ++ (type ++ rest)))

theorem ArrayTokens.headKind_ne_bar {record : String} {ts rest : List Token}
    (h : ArrayTokens record ts) : headKind (ts ++ rest) ≠ .mark .bar := by
  cases h with
  | brackets hname => exact IsMemberName.ne_mark (.inr hname) .bar
  | generic harray => exact IsMemberName.ne_mark (.inr harray) .bar

theorem ArrayPropertyTokens.exists_gives {record : String} {name : Token} {rest us : List Token}
    (h : ArrayPropertyTokens record name rest us) (hrecord : IsName record) (file : Path)
    (owner : String) : ∃ p a, (property file owner us).Gives p rest ∧ p.name = name.value ∧
      p.type = ⟨TypeAtom.text a, []⟩ ∧ a.IsArrayOf record := by
  obtain ⟨hfront, hname, hcolon, hbar, htype, hrest⟩ := h
  simp only [List.mem_cons, List.not_mem_nil, or_false, not_or] at hrest
  obtain ⟨hbracket, hrest⟩ := hrest
  obtain ⟨a, ha, hatom⟩ := exists_gives_typeAtom_array _ hrecord htype hbracket
  have hexpr := gives_typeExpr hbar htype.headKind_ne_bar hatom hrest
  exact ⟨_, a, gives_property hfront hname hcolon hexpr, rfl, rfl, ha⟩

/-- The properties of a source are read from its tokens. Those whose tokens are of an array of a
record stand for that array if the name of the record begins in ASCII, and an alternative among the
tokens stands for an array only if its tokens are of one. -/
theorem arrays_of_schema {file : Path} {text : String} {finish : Position} {s : Schema}
    {ts : List Token} (h : Source.schema file text = .ok s)
    (hts : tokenList text = .ok (ts, finish)) :
    (∀ r ∈ s.records, ∀ p ∈ r.properties, ∃ us rest, us <:+ ts ∧
      (property file r.name us).Gives p rest) ∧
    (∀ record ∈ s.recordNames, BeginsInAscii record → record ≠ "string" → record ≠ "number" →
      ∀ owner name us rest, ArrayPropertyTokens record name rest us →
        ∃ p spelling, (property file owner us).Gives p rest ∧ p.name = name.value ∧
          p.type = ⟨spelling, []⟩ ∧ s.scope.item? spelling = some (.array record)) ∧
    ∀ owner us spelling rest record, us <:+ ts → (typeAtom owner us).Gives spelling rest →
      s.scope.item? spelling = some (.array record) →
        record ∈ s.recordNames ∧ ∃ taken, us = taken ++ rest ∧ ArrayTokens record taken := by
  have hnames := Schema.isName_of_isCanonical (isCanonical_of_schema h)
  refine ⟨fun r hr p hp => exists_property_of_schema h hts hr hp, ?_, ?_⟩
  · intro record hrecord hascii hstring hnumber owner name us rest htokens
    have hname := hnames record (List.mem_append_left _ hrecord)
    obtain ⟨p, a, hp, hpname, htype, ha⟩ := htokens.exists_gives hname file owner
    exact ⟨p, a.text, hp, hpname, htype,
      item?_of_isArrayOf hnames ha hrecord hascii hstring hnumber⟩
  · intro owner us spelling rest record hsuffix hatom hitem
    obtain ⟨a, taken, htaken, rfl, htokens⟩ :=
      hatom.exists_atom ((named_of_tokenList hts).of_suffix hsuffix)
    obtain ⟨hrecord, ha⟩ := isArrayOf_of_item? hitem
    exact ⟨hrecord, taken, htaken, htokens.arrayTokens ha⟩

def nestedBoxes : String := "interface B \x7b b: Array<B> \x7d"

def nestedBoxesSchema : Schema :=
  ⟨[.record ⟨"B", [⟨"b", ⟨"Array<B>", []⟩, some (locate sourceFile ⟨1, 15⟩)⟩], [],
    some (locate sourceFile ⟨1, 1⟩)⟩]⟩

def boxesFront : List Token :=
  [⟨.keyword .interfaceWord, "interface", ⟨1, 1⟩⟩, ⟨.identifier, "B", ⟨1, 11⟩⟩,
    ⟨.mark .openBrace, "\x7b", ⟨1, 13⟩⟩]

def boxesType : List Token :=
  [⟨.identifier, "Array", ⟨1, 18⟩⟩, ⟨.mark .openAngle, "<", ⟨1, 23⟩⟩,
    ⟨.identifier, "B", ⟨1, 24⟩⟩, ⟨.mark .closeAngle, ">", ⟨1, 25⟩⟩]

theorem arrayTokens_boxesType : ArrayTokens "B" boxesType :=
  @ArrayTokens.generic _ _ _ [] _ _ rfl rfl rfl ⟨Nat.zero_le _, nofun⟩ rfl rfl rfl

theorem arrays_of_nestedBoxes :
    let name : Token := ⟨.identifier, "b", ⟨1, 15⟩⟩
    let rest : List Token := [⟨.mark .closeBrace, "\x7d", ⟨1, 27⟩⟩]
    let us : List Token := name :: ⟨.mark .colon, ":", ⟨1, 16⟩⟩ :: (boxesType ++ rest)
    Source.schema sourceFile nestedBoxes = .ok nestedBoxesSchema ∧
    tokenList nestedBoxes = .ok (boxesFront ++ us, ⟨1, 28⟩) ∧
    ArrayPropertyTokens "B" name rest us ∧
    (∃ p spelling, (property sourceFile "B" us).Gives p rest ∧ p.type = ⟨spelling, []⟩ ∧
      nestedBoxesSchema.scope.item? spelling = some (.array "B")) ∧
    ∃ spelling taken, (typeAtom "B.b" (boxesType ++ rest)).Gives spelling rest ∧
      nestedBoxesSchema.scope.item? spelling = some (.array "B") ∧
      boxesType ++ rest = taken ++ rest ∧ ArrayTokens "B" taken := by
  intro name rest us
  have hschema : Source.schema sourceFile nestedBoxes = .ok nestedBoxesSchema := by decide +kernel
  have htokens : tokenList nestedBoxes = .ok (boxesFront ++ us, ⟨1, 28⟩) := by decide +kernel
  have hproperty : ArrayPropertyTokens "B" name rest us :=
    @ArrayPropertyTokens.mk _ _ _ [] _ [] _ ⟨Nat.zero_le _, nofun⟩ (.inr rfl) rfl
      ⟨Nat.zero_le _, nofun⟩ arrayTokens_boxesType (by decide)
  have hrecord : "B" ∈ nestedBoxesSchema.recordNames := by decide
  have hascii : BeginsInAscii "B" := ⟨'B', rfl, by decide⟩
  have hnames := Schema.isName_of_isCanonical (isCanonical_of_schema hschema)
  obtain ⟨-, hresolve, hconverse⟩ := arrays_of_schema hschema htokens
  obtain ⟨p, spelling, hp, -, htype, hitem⟩ :=
    hresolve "B" hrecord hascii (by decide) (by decide) "B" name us rest hproperty
  have hname : IsName "B" := isName_of_cons rfl rfl rfl
  have hend : headKind rest ≠ .mark .openBracket := by decide
  obtain ⟨a, ha, hatom⟩ :=
    exists_gives_typeAtom_array "B.b" hname arrayTokens_boxesType hend
  have hitem' := item?_of_isArrayOf hnames ha hrecord hascii (by decide) (by decide)
  have hsuffix : boxesType ++ rest <:+ boxesFront ++ us :=
    ((List.suffix_cons _ _).trans (List.suffix_cons _ _)).trans (List.suffix_append _ _)
  obtain ⟨-, taken, htaken, harray⟩ := hconverse "B.b" _ a.text rest "B" hsuffix hatom hitem'
  exact ⟨hschema, htokens, hproperty, ⟨p, spelling, hp, htype, hitem⟩,
    a.text, taken, hatom, hitem', htaken, harray⟩

/-- A record of a name outside ASCII, with an array of its own kind. -/
def accentedRecord : String := "interface É \x7b y: É[] \x7d"

def accentedSchema : Schema :=
  ⟨[.record ⟨"É", [⟨"y", ⟨"É[]", []⟩, some (locate sourceFile ⟨1, 15⟩)⟩], [],
    some (locate sourceFile ⟨1, 1⟩)⟩]⟩

def accentedType : List Token :=
  [⟨.identifier, "É", ⟨1, 18⟩⟩, ⟨.mark .openBracket, "[", ⟨1, 19⟩⟩,
    ⟨.mark .closeBracket, "]", ⟨1, 20⟩⟩]

theorem no_arrays_of_accentedRecord :
    let name : Token := ⟨.identifier, "y", ⟨1, 15⟩⟩
    let rest : List Token := [⟨.mark .closeBrace, "\x7d", ⟨1, 22⟩⟩]
    let us : List Token := name :: ⟨.mark .colon, ":", ⟨1, 16⟩⟩ :: (accentedType ++ rest)
    Source.schema sourceFile accentedRecord = .ok accentedSchema ∧
    tokenList accentedRecord = .ok ([⟨.keyword .interfaceWord, "interface", ⟨1, 1⟩⟩,
      ⟨.identifier, "É", ⟨1, 11⟩⟩, ⟨.mark .openBrace, "\x7b", ⟨1, 13⟩⟩] ++ us, ⟨1, 23⟩) ∧
    "É" ∈ accentedSchema.recordNames ∧ ArrayPropertyTokens "É" name rest us ∧
    ¬ ∃ p spelling, (property sourceFile "É" us).Gives p rest ∧ p.type = ⟨spelling, []⟩ ∧
      accentedSchema.scope.item? spelling = some (.array "É") := by
  intro name rest us
  have htype : ArrayTokens "É" accentedType := .brackets rfl rfl rfl rfl
  have hproperty : ArrayPropertyTokens "É" name rest us :=
    @ArrayPropertyTokens.mk _ _ _ [] _ [] _ ⟨Nat.zero_le _, nofun⟩ (.inr rfl) rfl
      ⟨Nat.zero_le _, nofun⟩ htype (by decide)
  refine ⟨by decide +kernel, by decide +kernel, by decide, hproperty, ?_⟩
  rintro ⟨p, spelling, -, -, hitem⟩
  obtain ⟨c, hc, hcode⟩ := beginsInAscii_of_item? hitem
  cases hc
  exact absurd hcode (by decide)

end Source

end SchemaGrammar
