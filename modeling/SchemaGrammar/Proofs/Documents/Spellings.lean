import SchemaGrammar.Document.Schemas
import SchemaGrammar.Proofs.Trimming

/-!
# Spellings between bars

A text is cut at its bars, and the blanks around each part are dropped. So the spellings of a text
have no bars and no blanks around them, and spellings of that kind are found again when they are put
together. Putting texts together puts their spellings together.
-/
namespace SchemaGrammar

section Cuts

variable {α : Type} [DecidableEq α] {x : α}

theorem not_mem_of_mem_splitOn {cs part : List α} (h : part ∈ cs.splitOn x) : x ∉ part := by
  induction cs generalizing part with
  | nil =>
    rw [List.splitOn_nil, List.mem_singleton] at h
    simp [h]
  | cons c cs ih =>
    rw [List.splitOn_cons_eq_if_modifyHead] at h
    split_ifs at h with hc
    · obtain rfl | h := List.mem_cons.mp h
      · exact List.not_mem_nil
      · exact ih h
    · cases hcut : cs.splitOn x with
      | nil => exact absurd hcut (List.splitOn_ne_nil x cs)
      | cons first others =>
        rw [hcut] at h ih
        obtain rfl | h := List.mem_cons.mp h
        · have hne : c ≠ x := by simpa using hc
          simpa [hne.symm] using ih List.mem_cons_self
        · exact ih (List.mem_cons_of_mem _ h)

/-- What is put behind a text without bars stands behind its last part. -/
theorem exists_splitOn_append (x : α) (cs : List α) : ∃ parts last, cs.splitOn x = parts ++ [last] ∧
    ∀ ds, x ∉ ds → (cs ++ ds).splitOn x = parts ++ [last ++ ds] := by
  induction cs with
  | nil => exact ⟨[], [], rfl, fun ds hds => List.splitOn_eq_singleton hds⟩
  | cons c cs ih =>
    obtain ⟨parts, last, hcs, happend⟩ := ih
    by_cases hc : c = x
    · refine ⟨[] :: parts, last, ?_, fun ds hds => ?_⟩
      · simp [List.splitOn_cons_eq_if_modifyHead, hc, hcs]
      · simp [List.splitOn_cons_eq_if_modifyHead, hc, happend ds hds]
    · cases parts with
      | nil =>
        refine ⟨[], c :: last, ?_, fun ds hds => ?_⟩
        · simp [List.splitOn_cons_eq_if_modifyHead, hc, hcs]
        · simp [List.splitOn_cons_eq_if_modifyHead, hc, happend ds hds]
      | cons part parts =>
        refine ⟨(c :: part) :: parts, last, ?_, fun ds hds => ?_⟩
        · simp [List.splitOn_cons_eq_if_modifyHead, hc, hcs]
        · simp [List.splitOn_cons_eq_if_modifyHead, hc, happend ds hds]

end Cuts

/-- A spelling that stands for itself between bars. -/
structure Spelling.IsPlain (spelling : String) : Prop where
  ne_empty : spelling ≠ ""
  bar_not_mem : '|' ∉ spelling.toList
  trimmed : Text.IsTrimmed spelling.toList

namespace Document

def partsOf (cs : List Char) : List (List Char) := (cs.splitOn '|').map Text.trimBlanks

theorem spellingsOfText_eq (text : String) :
    spellingsOfText text = ((partsOf text.toList).filter (· ≠ [])).map String.ofList := rfl

theorem partsOf_space_cons (cs : List Char) : partsOf (' ' :: cs) = partsOf cs := by
  rw [partsOf, partsOf, List.splitOn_cons_eq_if_modifyHead]
  cases hcut : cs.splitOn '|' with
  | nil => exact absurd hcut (List.splitOn_ne_nil _ cs)
  | cons first others => simp [Text.trimBlanks_cons (c := ' ') rfl]

theorem partsOf_space_concat (cs : List Char) : partsOf (cs ++ [' ']) = partsOf cs := by
  obtain ⟨parts, last, hcs, happend⟩ := exists_splitOn_append '|' cs
  rw [partsOf, partsOf, hcs, happend [' '] (by decide), List.map_append, List.map_append,
    List.map_singleton, List.map_singleton, Text.trimBlanks_concat (c := ' ') rfl]

/-- The spellings of texts with a bar between them are those of one and of the other. -/
theorem spellingsOfText_append (a b : String) :
    spellingsOfText (a ++ " | " ++ b) = spellingsOfText a ++ spellingsOfText b := by
  have hparts : partsOf (a ++ " | " ++ b).toList = partsOf a.toList ++ partsOf b.toList := by
    rw [← partsOf_space_concat a.toList, ← partsOf_space_cons b.toList, partsOf, partsOf, partsOf,
      ← List.map_append, ← List.splitOn_append_cons_self]
    simp
  rw [spellingsOfText_eq, hparts, List.filter_append, List.map_append]
  rfl

theorem spellingsOfText_intercalate (spellings : List String) :
    spellingsOfText (" | ".intercalate spellings) = spellings.flatMap spellingsOfText := by
  induction spellings with
  | nil => rfl
  | cons first others ih =>
    cases others with
    | nil => simp
    | cons second others =>
      rw [String.intercalate_cons_cons, spellingsOfText_append, ih, ← List.flatMap_cons]

theorem isPlain_of_mem_spellingsOfText {text spelling : String}
    (h : spelling ∈ spellingsOfText text) : Spelling.IsPlain spelling := by
  rw [spellingsOfText_eq, partsOf, List.mem_map] at h
  obtain ⟨_, hmem, rfl⟩ := h
  obtain ⟨hmem, hne⟩ := List.mem_filter.mp hmem
  obtain ⟨part, hpart, rfl⟩ := List.mem_map.mp hmem
  refine ⟨?_, ?_, ?_⟩
  · simpa using hne
  · rw [String.toList_ofList]
    intro hbar
    exact not_mem_of_mem_splitOn hpart (Text.mem_of_mem_trimBlanks hbar)
  · rw [String.toList_ofList]
    exact Text.isTrimmed_trimBlanks part

theorem spellingsOfText_of_isPlain {spelling : String} (h : Spelling.IsPlain spelling) :
    spellingsOfText spelling = [spelling] := by
  rw [spellingsOfText, List.splitOn_eq_singleton h.bar_not_mem, List.map_singleton,
    h.trimmed.trimBlanks_eq]
  simp [h.ne_empty]

/-- The spellings of a type are found again in its text exactly if they are all plain. -/
theorem spellingsOfText_text_eq_iff (t : TypeExpr) :
    spellingsOfText t.text = t.spellings ↔ ∀ spelling ∈ t.spellings, Spelling.IsPlain spelling := by
  constructor
  · intro h spelling hspelling
    exact isPlain_of_mem_spellingsOfText (h ▸ hspelling)
  · intro h
    have hself : t.spellings.flatMap spellingsOfText = t.spellings.flatMap ([·]) :=
      List.flatMap_congr fun spelling hspelling => spellingsOfText_of_isPlain (h spelling hspelling)
    rw [TypeExpr.text, spellingsOfText_intercalate, hself, List.flatMap_singleton']

end Document

end SchemaGrammar
