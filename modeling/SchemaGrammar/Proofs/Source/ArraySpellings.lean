import SchemaGrammar.Proofs.ArrayTypes
import SchemaGrammar.Proofs.Source.NestedTypes
import SchemaGrammar.Schema.Grammar

/-!
# Alternatives that stand for arrays

The resolver takes a spelling for an array by its characters, the reader an alternative by its
tokens. A spelling that the reader gives is taken for an array of a record only if it is the name of
the record with one pair of brackets, or `Array` with just that name as its argument; and then it is
taken for one if the name begins with an ASCII letter, `_` or `$`.
-/
namespace SchemaGrammar.Source

open Spelling

/-- The alternative is the name with one pair of brackets, or `Array` with the name as argument. -/
inductive TypeAtom.IsArrayOf (record : String) : TypeAtom → Prop
  | brackets {name} : name.text = record → IsArrayOf record (.mk name [] [] 1)
  | generic {array name} : array.text = "Array" → name.text = record →
      IsArrayOf record (.mk array [] [.mk (.mk name [] [] 0) []] 0)

/-! ## What spellings of arrays spell -/

theorem isName_of_isElementName {name : List Char} (h : IsElementName name) :
    IsName (String.ofList name) := by
  obtain ⟨c, hc, hstart⟩ := h.start
  obtain ⟨r, rfl⟩ := List.head?_eq_some_iff.mp hc
  refine ⟨c, r, String.toList_ofList, ?_, (List.forall_mem_cons.mp h.parts).2⟩
  simp only [isNameStart, Bool.or_eq_true, decide_eq_true_eq] at hstart
  obtain (halpha | rfl) | rfl := hstart
  · have hcode := Text.isAlpha_iff.mp halpha
    have hascii : c.toNat < 128 := by omega
    simp [isWordStart, Text.isLetter, hascii, halpha]
  · rfl
  · rfl

theorem Spells.blanks {blanks cs : List Char} {ls : List Lexeme} (hblanks : IsBlanks blanks)
    (h : Spells cs ls) : Spells (blanks ++ cs) ls := by
  induction blanks with
  | nil => exact h
  | cons c blanks ih =>
    obtain ⟨hc, hblanks⟩ := List.forall_mem_cons.mp hblanks
    exact .blank hc (ih hblanks)

theorem Stops.blanks {blanks cs : List Char} (hblanks : IsBlanks blanks) (h : Stops cs) :
    Stops (blanks ++ cs) := by
  cases blanks with
  | nil => exact h
  | cons c blanks =>
    rintro _ ⟨⟩
    exact isWordPart_of_isBlank (hblanks c List.mem_cons_self)

theorem Spells.unique {cs : List Char} {ls ls' : List Lexeme} (h : Spells cs ls)
    (h' : Spells cs ls') : ls = ls' := by
  rw [← String.toList_ofList (l := cs)] at h h'
  obtain ⟨ts, p, hts, rfl⟩ := h.exists_tokenList
  obtain ⟨ts', p', hts', rfl⟩ := h'.exists_tokenList
  cases hts.symm.trans hts'
  rfl

theorem spells_of_bracketElement {cs name : List Char} (h : bracketElement cs = some name) :
    Spells cs [.word (String.ofList name), .mark .openBracket, .mark .closeBracket] := by
  obtain ⟨before, inside, hbefore, hinside, hname, rfl⟩ := exists_of_bracketElement h
  have hclose : Spells [']'] [.mark .closeBracket] := Spells.done.mark .closeBracket
  have hopen := (hclose.blanks hinside).mark .openBracket
  have hword := (hopen.blanks hbefore).word (isName_of_isElementName hname)
    ((stops_mark .openBracket _).blanks hbefore)
  rw [String.toList_ofList] at hword
  rwa [List.append_assoc]

theorem spells_of_genericElement {cs name : List Char} (h : genericElement cs = some name) :
    Spells cs [.word "Array", .mark .openAngle, .word (String.ofList name), .mark .closeAngle] := by
  obtain ⟨before, inside, after, hbefore, hinside, hafter, hname, rfl⟩ :=
    exists_of_genericElement h
  have hclose : Spells ['>'] [.mark .closeAngle] := Spells.done.mark .closeAngle
  have hword := (hclose.blanks hafter).word (isName_of_isElementName hname)
    ((stops_mark .closeAngle []).blanks hafter)
  rw [String.toList_ofList] at hword
  have hopen := (hword.blanks hinside).mark .openAngle
  have harray : IsName "Array" := isName_of_cons rfl rfl rfl
  have hall := (hopen.blanks hbefore).word harray ((stops_mark .openAngle _).blanks hbefore)
  simp only [List.append_assoc]
  exact hall

/-! ## From lexemes to alternatives -/

@[simp] theorem Lexeme.mark_inj {m m' : Mark} : Lexeme.mark m = Lexeme.mark m' ↔ m = m' := by
  cases m <;> cases m' <;> decide

@[simp] theorem Lexeme.word_inj {name name' : String} :
    Lexeme.word name = Lexeme.word name' ↔ name = name' := by
  constructor
  · exact congrArg Prod.snd
  · exact congrArg Lexeme.word

@[simp] theorem Lexeme.word_ne_mark (name : String) (m : Mark) :
    Lexeme.word name ≠ Lexeme.mark m := by
  intro heq
  exact wordKind_ne name rfl (congrArg Prod.fst heq)

theorem isArrayOf_of_lexemes_brackets {a : TypeAtom} {record : String}
    (h : a.lexemes = [.word record, .mark .openBracket, .mark .closeBracket]) :
    a.IsArrayOf record := by
  obtain ⟨head, path, arguments, brackets⟩ := a
  rw [TypeAtom.lexemes, TypeUnion.lexemesOf_eq_map, List.cons.injEq, Lexeme.word_inj] at h
  obtain ⟨hhead, h⟩ := h
  rcases path with - | ⟨word, path⟩
  · rcases arguments with - | ⟨u, us⟩
    · rcases brackets with - | - | brackets
      · simp [pathLexemes, argumentLexemes, bracketLexemes] at h
      · exact .brackets hhead
      · simp [pathLexemes, argumentLexemes, bracketLexemes] at h
    · simp [pathLexemes, argumentLexemes] at h
  · simp [pathLexemes] at h

theorem eq_nil_of_append_cons_eq {x y : Lexeme} {ls ks : List Lexeme} (h : ls ++ x :: ks = [y]) :
    ls = [] ∧ ks = [] := by
  rcases ls with - | ⟨l, ls⟩
  · exact ⟨rfl, (List.cons.inj h).2⟩
  · simp at h

theorem eq_nil_of_pathLexemes {path : List Word} (h : pathLexemes path = []) : path = [] := by
  cases path with
  | nil => rfl
  | cons => cases h

theorem eq_nil_of_argumentLexemes {us : List TypeUnion}
    (h : argumentLexemes (TypeUnion.lexemesOf us) = []) : us = [] := by
  cases us with
  | nil => rfl
  | cons => cases h

theorem eq_nil_of_flatMap_cons {l : Lexeme} {lss : List (List Lexeme)}
    (h : lss.flatMap (l :: ·) = []) : lss = [] := by
  cases lss with
  | nil => rfl
  | cons => cases h

theorem eq_zero_of_bracketLexemes {brackets : Nat} (h : bracketLexemes brackets = []) :
    brackets = 0 := by
  cases brackets with
  | zero => rfl
  | succ => cases h

theorem isArrayOf_of_lexemes_generic {a : TypeAtom} {record : String}
    (h : a.lexemes = [.word "Array", .mark .openAngle, .word record, .mark .closeAngle]) :
    a.IsArrayOf record := by
  obtain ⟨array, path, arguments, brackets⟩ := a
  rw [TypeAtom.lexemes, TypeUnion.lexemesOf_eq_map, List.cons.injEq, Lexeme.word_inj] at h
  obtain ⟨harray, h⟩ := h
  rcases path with - | ⟨word, path⟩
  · rcases arguments with - | ⟨⟨⟨head, path, arguments, brackets'⟩, others⟩, us⟩
    · cases brackets <;> simp [pathLexemes, argumentLexemes, bracketLexemes] at h
    · -- nothing but the name may stand between the angle brackets, and nothing behind them
      have hinside : Lexeme.word head.text :: ((pathLexemes path ++
          (argumentLexemes (TypeUnion.lexemesOf arguments) ++ (bracketLexemes brackets' ++
            ((TypeAtom.lexemesOf others).flatMap (.mark .bar :: ·) ++
              (us.map TypeUnion.lexemes).flatMap (.mark .comma :: ·))))) ++
          .mark .closeAngle :: bracketLexemes brackets) = [.word record, .mark .closeAngle] := by
        simpa [pathLexemes, argumentLexemes, TypeUnion.lexemes, TypeAtom.lexemes] using h
      rw [List.cons.injEq, Lexeme.word_inj] at hinside
      obtain ⟨hhead, hnothing⟩ := hinside
      obtain ⟨hnone, hbehind⟩ := eq_nil_of_append_cons_eq hnothing
      simp only [List.append_eq_nil_iff] at hnone
      obtain ⟨hpath, harguments, hbrackets, hothers, hus⟩ := hnone
      rw [TypeAtom.lexemesOf_eq_map] at hothers
      obtain rfl := List.map_eq_nil_iff.mp (eq_nil_of_flatMap_cons hothers)
      obtain rfl := List.map_eq_nil_iff.mp (eq_nil_of_flatMap_cons hus)
      obtain rfl := eq_nil_of_argumentLexemes harguments
      obtain rfl := eq_nil_of_pathLexemes hpath
      obtain rfl := eq_zero_of_bracketLexemes hbrackets
      obtain rfl := eq_zero_of_bracketLexemes hbehind
      exact .generic harray hhead
  · simp [pathLexemes] at h

/-- Only the spelling of an array of the record is taken for one. -/
theorem isArrayOf_of_arrayElement {a : TypeAtom} {record : String}
    (h : arrayElement a.text = some record) : a.IsArrayOf record := by
  have hspells : Spells a.text.toList a.lexemes := by
    simpa using a.writes [] [] stops_nil .done
  obtain hgeneric | hbracket := arrayElement_eq_some h
  · rw [a.isTrimmed.trimBlanks_eq] at hgeneric
    have hlexemes := hspells.unique (spells_of_genericElement hgeneric)
    rw [String.ofList_toList] at hlexemes
    exact isArrayOf_of_lexemes_generic hlexemes
  · rw [a.isTrimmed.trimBlanks_eq] at hbracket
    have hlexemes := hspells.unique (spells_of_bracketElement hbracket)
    rw [String.ofList_toList] at hlexemes
    exact isArrayOf_of_lexemes_brackets hlexemes

/-! ## From alternatives to items -/

def BeginsInAscii (text : String) : Prop := ∃ c ∈ text.toList.head?, c.toNat < 128

/-- The resolver finds only names that begin in ASCII, the reader others as well. -/
theorem isElementName_of_beginsInAscii {name : String} (h : IsName name)
    (hascii : BeginsInAscii name) : IsElementName name.toList := by
  obtain ⟨c, r, hchars, hstart, -⟩ := id h
  obtain ⟨x, hx, hcode⟩ := hascii
  rw [hchars] at hx
  cases hx
  refine ⟨⟨c, by rw [hchars]; rfl, ?_⟩, h.isWordPart⟩
  obtain hletter | rfl | rfl := isWordStart_iff.mp hstart
  · rw [Text.isLetter, if_pos hcode] at hletter
    simp [isNameStart, hletter]
  · rfl
  · rfl

theorem arrayElement_of_isArrayOf {a : TypeAtom} {record : String} (h : a.IsArrayOf record)
    (hrecord : IsElementName record.toList) : arrayElement a.text = some record := by
  rw [arrayElement, a.isTrimmed.trimBlanks_eq]
  cases h with
  | @brackets name hname =>
    have hchars : (TypeAtom.mk name [] [] 1).text.toList = record.toList ++ "[]".toList := by
      simp [TypeAtom.text, TypeUnion.texts, argumentsText, hname]
    have hgeneric : genericElement (record.toList ++ "[]".toList) = none := by
      rw [Option.eq_none_iff_forall_ne_some]
      intro element helement
      obtain ⟨_, _, _, -, -, -, -, hshape⟩ := exists_of_genericElement helement
      have hmem : '<' ∈ record.toList ++ "[]".toList := by
        rw [hshape]
        simp
      rcases List.mem_append.mp hmem with hname | hmark
      · cases hrecord.parts '<' hname
      · exact absurd hmark (by decide)
    simp only [hchars, hgeneric, bracketElement_append hrecord]
    simp
  | @generic array name harray hname =>
    have hchars : (TypeAtom.mk array [] [.mk (.mk name [] [] 0) []] 0).text.toList =
        "Array<".toList ++ (record.toList ++ ['>']) := by
      simp [TypeAtom.text, TypeUnion.texts, TypeUnion.text, TypeAtom.texts, argumentsText, harray,
        hname]
    simp only [hchars, genericElement_append hrecord]
    simp

/-- The spelling of an array is no name. -/
theorem not_isName_of_isArrayOf {a : TypeAtom} {record : String} (h : a.IsArrayOf record) :
    ¬ IsName a.text := by
  intro hname
  cases h with
  | brackets => cases hname.isWordPart '[' (by simp [TypeAtom.text])
  | generic =>
    cases hname.isWordPart '<' (by simp [TypeAtom.text, TypeUnion.texts, argumentsText])

theorem isName_of_mem_builtins {name : String} (h : name ∈ Builtin.names) : IsName name := by
  obtain ⟨b, -, rfl⟩ := List.mem_map.mp h
  cases b <;> exact isName_of_cons rfl rfl rfl

theorem trim_text (a : TypeAtom) : trim a.text = a.text := by
  rw [trim, a.isTrimmed.trimBlanks_eq, String.ofList_toList]

section Items

variable {s : Schema} (hnames : ∀ name ∈ s.recordNames ++ s.enumerationNames, IsName name)
include hnames

theorem item?_of_isArrayOf {a : TypeAtom} {record : String} (h : a.IsArrayOf record)
    (hrecord : record ∈ s.recordNames) (hascii : BeginsInAscii record)
    (hstring : record ≠ "string") (hnumber : record ≠ "number") :
    s.scope.item? a.text = some (.array record) := by
  have hnot := not_isName_of_isArrayOf h
  have hrecords : a.text ∉ s.recordNames := fun hmem =>
    hnot (hnames _ (List.mem_append_left _ hmem))
  have henumerations : a.text ∉ s.enumerationNames := fun hmem =>
    hnot (hnames _ (List.mem_append_right _ hmem))
  have hbuiltins : a.text ∉ Builtin.names := fun hmem => hnot (isName_of_mem_builtins hmem)
  have hname := hnames _ (List.mem_append_left _ hrecord)
  have helement := arrayElement_of_isArrayOf h (isElementName_of_beginsInAscii hname hascii)
  have hlist : ResolutionStep.listOfScalar? record = none := by
    simp [ResolutionStep.listOfScalar?, Builtin.name, hstring, hnumber]
  simp [Scope.item?, ResolutionStep.order, ResolutionStep.claim, Schema.scope, trim_text, hbuiltins,
    henumerations, hrecords, helement, hlist, hrecord]

end Items

theorem exists_arrayElement_of_item? {scope : Scope} {spelling record : String}
    (h : scope.item? spelling = some (.array record)) :
    arrayElement (trim spelling) = some record ∧ record ∈ scope.records := by
  obtain ⟨step, -, hclaim⟩ := List.exists_of_findSome?_eq_some h
  generalize trim spelling = word at hclaim
  cases step <;> rw [ResolutionStep.claim] at hclaim
  case recordArray =>
    obtain ⟨name, helement, hname⟩ := Option.bind_eq_some_iff.mp hclaim
    obtain ⟨hmem, hitem⟩ := Option.ite_none_right_eq_some.mp hname
    cases hitem
    exact ⟨helement, hmem⟩
  case scalarList =>
    obtain ⟨name, -, hname⟩ := Option.bind_eq_some_iff.mp hclaim
    obtain ⟨b, -, hb⟩ := Option.map_eq_some_iff.mp hname
    cases hb
  all_goals
    obtain ⟨-, hitem⟩ := Option.ite_none_right_eq_some.mp hclaim
    cases hitem

/-- No spelling whatever stands for arrays of a record whose name begins outside ASCII. -/
theorem beginsInAscii_of_item? {scope : Scope} {spelling record : String}
    (h : scope.item? spelling = some (.array record)) : BeginsInAscii record := by
  obtain ⟨helement, -⟩ := exists_arrayElement_of_item? h
  have hname : IsElementName record.toList := by
    obtain hgeneric | hbracket := arrayElement_eq_some helement
    · obtain ⟨_, _, _, -, -, -, hname, -⟩ := exists_of_genericElement hgeneric
      exact hname
    · obtain ⟨_, _, -, -, hname, -⟩ := exists_of_bracketElement hbracket
      exact hname
  obtain ⟨c, hc, hstart⟩ := hname.start
  refine ⟨c, hc, ?_⟩
  simp only [isNameStart, Bool.or_eq_true, decide_eq_true_eq] at hstart
  obtain (halpha | rfl) | rfl := hstart
  · have hcode := Text.isAlpha_iff.mp halpha
    omega
  · decide
  · decide

theorem isArrayOf_of_item? {s : Schema} {a : TypeAtom} {record : String}
    (h : s.scope.item? a.text = some (.array record)) :
    record ∈ s.recordNames ∧ a.IsArrayOf record := by
  obtain ⟨helement, hrecord⟩ := exists_arrayElement_of_item? h
  rw [trim_text] at helement
  exact ⟨hrecord, isArrayOf_of_arrayElement helement⟩

end SchemaGrammar.Source
