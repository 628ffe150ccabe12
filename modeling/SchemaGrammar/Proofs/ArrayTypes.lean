import Mathlib.Data.List.TakeWhile
import SchemaGrammar.Proofs.CharClasses
import SchemaGrammar.Resolution

/-!
# How the types of arrays are spelled

A spelling of an array is `Array`, a bracket, a name and a bracket that closes, or a name and a pair
of square brackets. There may be blanks between these.
-/
namespace SchemaGrammar.Spelling

variable {cs name : List Char}

def IsBlanks (cs : List Char) : Prop := ∀ c ∈ cs, Text.isBlank c = true

def isNameStart (c : Char) : Bool := c.isAlpha || c = '_' || c = '$'

theorem isNamePart_of_isNameStart {c : Char} (h : isNameStart c = true) : isNamePart c = true := by
  simp only [isNameStart, Bool.or_eq_true, decide_eq_true_eq] at h
  obtain (halpha | rfl) | rfl := h
  · simp [isNamePart, Text.isLetterOrNumber_of_isAlpha halpha]
  · rfl
  · rfl

theorem isBlank_of_isNameStart {c : Char} (h : isNameStart c = true) : Text.isBlank c = false := by
  simp only [isNameStart, Bool.or_eq_true, decide_eq_true_eq] at h
  obtain (halpha | rfl) | rfl := h
  · rw [← Bool.not_eq_true]
    intro hblank
    have hnot := Text.isLetterOrNumber_of_isBlank hblank
    rw [Text.isLetterOrNumber_of_isAlpha halpha] at hnot
    cases hnot
  · rfl
  · rfl

/-- The names that can be spelled as elements of arrays. -/
structure IsElementName (name : List Char) : Prop where
  start : ∃ c ∈ name.head?, isNameStart c = true
  parts : ∀ c ∈ name, isNamePart c = true

theorem exists_of_splitName {rest : List Char} (h : splitName cs = some (name, rest)) :
    cs = name ++ rest ∧ IsElementName name := by
  cases cs with
  | nil => cases h
  | cons c r =>
    rw [splitName] at h
    split_ifs at h with hstart
    cases h
    refine ⟨by rw [List.cons_append, List.takeWhile_append_dropWhile], ⟨c, rfl, hstart⟩, ?_⟩
    exact List.forall_mem_cons.mpr
      ⟨isNamePart_of_isNameStart hstart, fun _ => List.mem_takeWhile_imp⟩

theorem splitName_append (h : IsElementName name) {r : List Char}
    (hr : ∀ c ∈ r.head?, isNamePart c = false) : splitName (name ++ r) = some (name, r) := by
  obtain ⟨c, hc, hstart⟩ := h.start
  obtain ⟨others, rfl⟩ := List.head?_eq_some_iff.mp hc
  have hparts := (List.forall_mem_cons.mp h.parts).2
  rw [isNameStart] at hstart
  rw [List.cons_append, splitName, if_pos hstart, List.takeWhile_append_of_pos hparts,
    List.dropWhile_append_of_pos hparts]
  cases r with
  | nil => simp
  | cons x r => simp [hr x rfl]

theorem exists_skipBlanks (cs : List Char) : ∃ blanks, IsBlanks blanks ∧
    cs = blanks ++ skipBlanks cs :=
  ⟨cs.takeWhile Text.isBlank, fun _ => List.mem_takeWhile_imp,
    List.takeWhile_append_dropWhile.symm⟩

theorem exists_of_genericElement (h : genericElement cs = some name) :
    ∃ before inside after, IsBlanks before ∧ IsBlanks inside ∧ IsBlanks after ∧
      IsElementName name ∧
        cs = "Array".toList ++ before ++ '<' :: (inside ++ name ++ after ++ ['>']) := by
  unfold genericElement at h
  split at h
  · next r =>
    obtain ⟨before, hbefore, hr⟩ := exists_skipBlanks r
    split at h
    · next r₁ hopen =>
      obtain ⟨inside, hinside, hr₁⟩ := exists_skipBlanks r₁
      split at h
      · next element r₂ hsplit =>
        obtain ⟨hname, hparts⟩ := exists_of_splitName hsplit
        obtain ⟨after, hafter, hr₂⟩ := exists_skipBlanks r₂
        split_ifs at h with hclose
        cases h
        refine ⟨before, inside, after, hbefore, hinside, hafter, hparts, ?_⟩
        rw [hr, hopen, hr₁, hname, hr₂, hclose]
        simp
      · cases h
    · cases h
  · cases h

theorem exists_of_bracketElement (h : bracketElement cs = some name) :
    ∃ before inside, IsBlanks before ∧ IsBlanks inside ∧ IsElementName name ∧
      cs = name ++ before ++ '[' :: (inside ++ [']']) := by
  unfold bracketElement at h
  split at h
  · next element r hsplit =>
    obtain ⟨hname, hparts⟩ := exists_of_splitName hsplit
    obtain ⟨before, hbefore, hr⟩ := exists_skipBlanks r
    split at h
    · next r₁ hopen =>
      obtain ⟨inside, hinside, hr₁⟩ := exists_skipBlanks r₁
      split_ifs at h with hclose
      cases h
      refine ⟨before, inside, hbefore, hinside, hparts, ?_⟩
      rw [hname, hr, hopen, hr₁, hclose]
      simp
    · cases h
  · cases h

theorem genericElement_append (h : IsElementName name) :
    genericElement ("Array<".toList ++ (name ++ ['>'])) = some name := by
  have hstop : ∀ c ∈ ['>'].head?, isNamePart c = false := by
    rintro c ⟨⟩
    rfl
  have hsplit := splitName_append h hstop
  have hskip : skipBlanks (name ++ ['>']) = name ++ ['>'] := by
    obtain ⟨c, hc, hstart⟩ := h.start
    obtain ⟨r, rfl⟩ := List.head?_eq_some_iff.mp hc
    simp [skipBlanks, isBlank_of_isNameStart hstart]
  have hopen (cs : List Char) : skipBlanks ('<' :: cs) = '<' :: cs := rfl
  have hclose : skipBlanks ['>'] = ['>'] := rfl
  have hcs : "Array<".toList ++ (name ++ ['>']) =
      'A' :: 'r' :: 'r' :: 'a' :: 'y' :: '<' :: (name ++ ['>']) := rfl
  rw [hcs, genericElement]
  simp only [hopen, hskip, hsplit, hclose, if_pos]

theorem bracketElement_append (h : IsElementName name) :
    bracketElement (name ++ "[]".toList) = some name := by
  have hstop : ∀ c ∈ ['[', ']'].head?, isNamePart c = false := by
    rintro c ⟨⟩
    rfl
  have hsplit := splitName_append h hstop
  have hopen : skipBlanks ['[', ']'] = ['[', ']'] := rfl
  have hclose : skipBlanks [']'] = [']'] := rfl
  have hcs : "[]".toList = ['[', ']'] := rfl
  rw [hcs, bracketElement, hsplit]
  simp only [hopen, hclose, if_pos]

/-- A spelling of an array is written in one way or the other, apart from blanks around it. -/
theorem arrayElement_eq_some {spelling element : String}
    (h : arrayElement spelling = some element) :
    genericElement (Text.trimBlanks spelling.toList) = some element.toList ∨
      bracketElement (Text.trimBlanks spelling.toList) = some element.toList := by
  obtain ⟨name, hname, rfl⟩ := Option.map_eq_some_iff.mp h
  rw [Option.orElse_eq_orElse, Option.orElse_eq_or, Option.or_eq_some_iff] at hname
  rw [String.toList_ofList]
  exact hname.imp_right And.right

end SchemaGrammar.Spelling
