import SchemaGrammar.Proofs.Json.Texts
import SchemaGrammar.Proofs.Notation.ReadBack
import SchemaGrammar.Proofs.Rendering

/-!
# The lines of a grammar text

No line feed stands within the line of an element, so the text of a grammar is cut into its lines
again, and a line determines the name of its element and the alternatives up to normal form.
-/
namespace SchemaGrammar

theorem lineFeed_not_mem_quote (s : String) : '\n' ∉ Text.quote s.toList := by
  intro hmem
  have hle := (Json.isString_quote s).le_toNat _ hmem
  revert hle
  decide

theorem Sign.lineFeed_not_mem {sign : Sign} (h : sign.IsPlain) : '\n' ∉ sign.chars := by
  cases sign with
  | gap => decide
  | bar => decide
  | opening => decide
  | closing repeats => cases repeats <;> decide
  | literal text => exact lineFeed_not_mem_quote _
  | reference name =>
    intro hmem
    obtain ⟨c, r, hname, hc, hr⟩ := exists_cons_of_isPlainName h
    rw [chars, hname] at hmem
    obtain h | h := List.mem_cons.mp hmem
    · cases h ▸ hc
    · cases hr _ h
  | charClass pattern =>
    simp only [IsPlain, Builtin.patterns, List.mem_cons, List.not_mem_nil, or_false] at h
    obtain rfl | rfl | rfl | rfl | rfl := h <;> decide

namespace Element

structure IsPlain (e : Element) : Prop where
  name : isPlainName e.name = true
  rules : ∀ rule ∈ e.alternatives, rule.IsPlain

def signs (e : Element) : List Sign := [Sign.bar].intercalate (e.alternatives.map Rule.signs)

variable {e e' : Element}

theorem toList_text (e : Element) :
    e.text.toList = e.name.toList ++ " ::= ".toList ++ e.signs.flatMap Sign.chars := by
  rw [text, String.toList_append, String.toList_append,
    Rule.toList_intercalate_text .bar optionSeparator rfl fun rule _ => rule.toList_text,
    signs]

theorem IsPlain.legible_signs (h : e.IsPlain) : Sign.Legible e.signs :=
  .intercalate trivial rfl
    (List.forall_mem_map.mpr fun rule hrule => (h.rules rule hrule).legible_signs)

theorem IsPlain.takeWhile_text (h : e.IsPlain) :
    e.text.toList.takeWhile Char.isAlpha = e.name.toList := by
  obtain ⟨c, r, hname, hc, hr⟩ := Sign.exists_cons_of_isPlainName h.name
  rw [toList_text, List.append_assoc]
  refine Source.takeWhile_append_of_head? ?_ ?_
  · rw [hname]
    exact List.forall_mem_cons.mpr ⟨hc, hr⟩
  · intro x hx
    cases hx
    rfl

/-- Elements of the same line have the same name and the same alternatives in normal form. -/
theorem IsPlain.eq_of_text_eq (h : e.IsPlain) (h' : e'.IsPlain)
    (heq : e.text.toList = e'.text.toList) :
    e.name = e'.name ∧ e.alternatives.map Rule.normal = e'.alternatives.map Rule.normal := by
  have hname : e.name.toList = e'.name.toList := by
    rw [← h.takeWhile_text, heq, h'.takeWhile_text]
  rw [toList_text, toList_text, hname] at heq
  have hsigns := h.legible_signs.eq_of_chars_eq h'.legible_signs (List.append_cancel_left heq)
  exact ⟨String.toList_inj.mp hname, Rule.map_normal_eq_of_signs_eq hsigns⟩

theorem IsPlain.lineFeed_not_mem (h : e.IsPlain) : '\n' ∉ e.text.toList := by
  have hname : '\n' ∉ (Sign.reference e.name).chars := Sign.lineFeed_not_mem h.name
  have hseparator : '\n' ∉ " ::= ".toList := by decide
  have hsigns : '\n' ∉ e.signs.flatMap Sign.chars := by
    rw [List.mem_flatMap]
    rintro ⟨sign, hsign, hmem⟩
    exact Sign.lineFeed_not_mem (h.legible_signs.plain sign hsign) hmem
  rw [toList_text, List.mem_append, List.mem_append]
  exact not_or.mpr ⟨not_or.mpr ⟨hname, hseparator⟩, hsigns⟩

end Element

namespace Grammar

variable {g g' : Grammar}

def HasBuiltinPatterns (g : Grammar) : Prop :=
  ∀ e ∈ g.elements, ∀ rule ∈ e.alternatives, ∀ pattern,
    (Rule.charClass pattern).Within rule → pattern ∈ Builtin.patterns

/-- The elements of a grammar that can be written are plain. -/
theorem isPlain_of_fault? (h : g.fault? = none) (hpatterns : g.HasBuiltinPatterns) :
    ∀ e ∈ g.elements, e.IsPlain := by
  obtain ⟨hplain, hdeclared⟩ := fault?_eq_none_iff.mp h
  intro e he
  refine ⟨hplain _ (List.mem_map_of_mem he), fun rule hrule => ⟨fun name hname => ?_, ?_⟩⟩
  · refine hplain _ (hdeclared e he name (List.mem_flatMap.mpr ⟨rule, hrule, ?_⟩))
    exact Rule.mem_references_of_within hname
  · exact hpatterns e he rule hrule

theorem toList_lines (g : Grammar) :
    g.lines.toList = g.elements.flatMap fun e => e.text.toList ++ ['\n'] := by
  simp [lines, String.toList_join, List.flatMap_map]

/-- Cutting the text at the line feeds gives the lines, and nothing after the last. -/
theorem splitOn_lines (h : ∀ e ∈ g.elements, e.IsPlain) :
    g.lines.toList.splitOn '\n' = g.elements.map (·.text.toList) ++ [[]] := by
  rw [toList_lines]
  generalize g.elements = es at h
  induction es with
  | nil => rfl
  | cons e es ih =>
    rw [List.forall_mem_cons] at h
    rw [List.flatMap_cons, List.append_assoc, List.singleton_append,
      List.splitOn_append_cons_self_of_not_mem h.1.lineFeed_not_mem, ih h.2]
    rfl

theorem count_lines (h : ∀ e ∈ g.elements, e.IsPlain) :
    g.lines.toList.count '\n' = g.elements.length := by
  rw [toList_lines]
  generalize g.elements = es at h
  induction es with
  | nil => rfl
  | cons e es ih =>
    rw [List.forall_mem_cons] at h
    rw [List.flatMap_cons, List.count_append, List.count_append,
      List.count_eq_zero_of_not_mem h.1.lineFeed_not_mem, ih h.2, List.length_cons]
    exact Nat.add_comm _ _

/-- Grammars of plain elements with the same lines have the same elements up to normal form. -/
theorem forall₂_of_lines_eq (h : ∀ e ∈ g.elements, e.IsPlain) (h' : ∀ e ∈ g'.elements, e.IsPlain)
    (heq : g.lines = g'.lines) : List.Forall₂ (fun e e' => e.name = e'.name ∧
      e.alternatives.map Rule.normal = e'.alternatives.map Rule.normal) g.elements g'.elements := by
  have hlines : g.elements.map (·.text.toList) = g'.elements.map (·.text.toList) := by
    have hsplit := splitOn_lines h
    rw [heq, splitOn_lines h'] at hsplit
    exact (List.append_cancel_right hsplit).symm
  generalize g.elements = es, g'.elements = es' at h h' hlines
  induction es generalizing es' with
  | nil =>
    cases List.map_eq_nil_iff.mp hlines.symm
    exact .nil
  | cons e es ih =>
    obtain ⟨e', es', rfl, hline, hlines⟩ := List.map_eq_cons_iff.mp hlines.symm
    rw [List.forall_mem_cons] at h h'
    exact .cons (h.1.eq_of_text_eq h'.1 hline.symm) (ih _ h.2 h'.2 hlines.symm)

end Grammar

end SchemaGrammar
