import SchemaGrammar.Proofs.Faults
import SchemaGrammar.Proofs.Json.Texts

/-!
# Quoted strings are read alike

A text in quotes for a string is read as that string up to its closing quote, whatever follows it.
Quoting writes one such text for each string, and the reader of source takes the same characters for
the same string. The values of an enumeration are quoted twice in the text of its element, so they
are read twice to get them back.
-/
namespace SchemaGrammar

open Document.Json

namespace Json

variable {ns : List Nat} {s : String} {w : List Char}

theorem Content.exists_codePoints_eq (h : Content ns w) (r : List Char) :
    ∃ x, codePoints (w ++ '"' :: r) = .ok x ∧ x.value = ns ∧ x.rest = r := by
  induction h with
  | nil => exact ⟨_, codePoints.eq_2 r, rfl, rfl⟩
  | @plain c ns w hc hquote hslash _ ih =>
    obtain ⟨x, hx, rfl, hrest⟩ := ih
    have hplain : ¬ (decide (c = '\\') || decide (c.toNat < 32)) = true := by simp [hslash, hc]
    have hread := codePoints.eq_5 c (w ++ '"' :: r) hquote (fun _ _ _ _ _ h => absurd h hslash)
      (fun _ _ h => absurd h hslash)
    rw [if_neg hplain, hx] at hread
    exact ⟨_, hread, rfl, hrest⟩
  | @escape e n ns w he _ ih =>
    obtain ⟨x, hx, rfl, hrest⟩ := ih
    have hread := codePoints.eq_4 e (w ++ '"' :: r) (by rintro _ _ _ _ _ rfl; cases he)
    rw [he, hx] at hread
    exact ⟨_, hread, rfl, hrest⟩
  | @hex digits ns w hlength hdigits _ ih =>
    obtain ⟨x, hx, rfl, hrest⟩ := ih
    obtain ⟨a, b, c, d, rfl⟩ := List.length_eq_four.mp hlength
    have hread := codePoints.eq_3 a b c d (w ++ '"' :: r)
    rw [if_pos (List.all_eq_true.mpr hdigits), hx] at hread
    exact ⟨_, hread, rfl, hrest⟩

/-- A text in quotes is read up to its closing quote. -/
theorem IsString.exists_value_eq (h : IsString s w) (r : List Char) :
    ∃ x, value (w ++ r) = .ok x ∧ x.value = .string s ∧ x.rest = r := by
  obtain @⟨ns, w, hcontent⟩ := h
  obtain ⟨x, hx, rfl, hrest⟩ := hcontent.exists_codePoints_eq r
  have hread := value.eq_1 (w ++ '"' :: r)
  rw [Document.Json.string, hx] at hread
  rw [List.cons_append, List.cons_append, List.append_assoc, List.singleton_append]
  exact ⟨_, hread, rfl, hrest⟩

theorem IsString.skipBlanks_eq (h : IsString s w) : skipBlanks w = w := by
  obtain ⟨-⟩ := h
  rfl

theorem IsString.read_eq {text : String} (h : IsString s text.toList) :
    Document.Json.read text = .ok (.string s) := by
  have hread := h.exists_value_eq []
  rw [List.append_nil] at hread
  obtain ⟨x, hx, hvalue, hrest⟩ := hread
  rw [Document.Json.read, h.skipBlanks_eq, hx, Except.bind, hrest, hvalue, skipBlanks,
    List.dropWhile_nil, if_pos rfl]

/-- A text is read as a string, and that string is read as another one. -/
def ReadsTwice (text v : String) : Prop :=
  ∃ inner, Document.Json.read text = .ok (.string inner) ∧
    Document.Json.read inner = .ok (.string v)

theorem read_quoted (v : String) : Document.Json.read (Text.quoted v) = .ok (.string v) := by
  have hstring := isString_quote v
  rw [← Text.toList_quoted] at hstring
  exact hstring.read_eq

/-- A text in quotes at the beginning of a quoted string is that string, as a whole. -/
theorem isString_and_append_eq_iff {v s : String} {w r r' : List Char} :
    IsString s w ∧ w ++ r' = Text.quote v.toList ++ r ↔
      s = v ∧ w = Text.quote v.toList ∧ r' = r := by
  constructor
  · rintro ⟨h, heq⟩
    obtain ⟨rfl, rfl⟩ := h.unique (isString_quote v) heq
    exact ⟨rfl, rfl, List.append_cancel_left heq⟩
  · rintro ⟨rfl, rfl, rfl⟩
    exact ⟨isString_quote s, rfl⟩

end Json

namespace Enumeration

variable {e : Enumeration}

theorem exists_element (hne : e.members ≠ []) (h : ∀ m ∈ e.members, ∃ v, m.value = some v) :
    ∃ el, e.element = .ok el := by
  cases hel : e.element with
  | ok el => exact ⟨el, rfl⟩
  | error err => exact absurd (element_eq_error_iff.mp hel) (forall_not_fault_iff.mpr ⟨hne, h⟩ err)

theorem readsTwice_of_alternative {m : Member} {rule : Rule} (h : e.alternative m = .ok rule) :
    ∃ v, m.value = some v ∧ Json.ReadsTwice rule.text v := by
  obtain ⟨v, hv, rfl⟩ := alternative_eq_ok_iff.mp h
  exact ⟨v, hv, Text.quoted v, Json.read_quoted _, Json.read_quoted v⟩

end Enumeration

/-- Every reader takes all of a quoted string, and no more, for the string that was quoted. -/
theorem quoted_read_alike :
    (∀ (v : String) (r : List Char),
      (∃ x, Document.Json.value ((Text.quoted v).toList ++ r) = .ok x ∧
        x.value = .string v ∧ x.rest = r) ∧
      (∀ s w r', Json.IsString s w ∧ w ++ r' = (Text.quoted v).toList ++ r ↔
        s = v ∧ w = (Text.quoted v).toList ∧ r' = r) ∧
      (∀ c ∈ (Text.quoted v).toList, 32 ≤ c.toNat) ∧
      Source.stringLiteral ((Text.quoted v).toList ++ r) =
        ⟨.ok v, (Text.quoted v).toList.length⟩) ∧
    ∀ e : Enumeration, e.members ≠ [] → (∀ m ∈ e.members, ∃ v, m.value = some v) →
      ∃ el, e.element = .ok el ∧ List.Forall₂
        (fun m rule => ∃ v, m.value = some v ∧ Json.ReadsTwice rule.text v)
        e.members el.alternatives := by
  refine ⟨fun v r => ?_, fun e hne hvalues => ?_⟩
  · have hstring := Json.isString_quote v
    rw [Text.toList_quoted]
    exact ⟨hstring.exists_value_eq r, fun _ _ _ => Json.isString_and_append_eq_iff,
      hstring.le_toNat, Source.stringLiteral_quote v r⟩
  · obtain ⟨el, hel⟩ := e.exists_element hne hvalues
    obtain ⟨-, halternatives⟩ := Enumeration.element_eq_ok_iff.mp hel
    exact ⟨el, hel, halternatives.imp fun _ _ h => e.readsTwice_of_alternative h⟩

/-- Values with a quote, a backslash before a quote, a control character and a line separator. -/
def escapedValues : Enumeration :=
  ⟨"Kind", [⟨"a", some "say \"hi\"", none⟩, ⟨"b", some "\\\"", none⟩,
    ⟨"c", some "\x01\n\u2028", none⟩], none⟩

theorem quoted_read_alike_escapedValues : ∃ el, escapedValues.element = .ok el ∧
    el.first.text = "\"\\\"say \\\\\\\"hi\\\\\\\"\\\"\"" ∧
    List.Forall₂ (fun v rule => Json.ReadsTwice rule.text v)
      ["say \"hi\"", "\\\"", "\x01\n\u2028"] el.alternatives := by
  obtain ⟨el, hel, hread⟩ := quoted_read_alike.2 escapedValues (by decide)
    (by simp [escapedValues])
  have hvalues : List.Forall₂ (fun m rule => Json.ReadsTwice rule.text (m.value.getD ""))
      escapedValues.members el.alternatives := by
    refine hread.imp fun m rule ⟨v, hv, htwice⟩ => ?_
    rwa [hv]
  refine ⟨el, hel, ?_, ?_⟩
  · cases hel
    decide
  · change List.Forall₂ _ (escapedValues.members.map fun m => m.value.getD "") _
    rwa [List.forall₂_map_left_iff]

end SchemaGrammar
