import SchemaGrammar.Proofs.Arrangement
import SchemaGrammar.Proofs.CodePoints
import SchemaGrammar.Proofs.Notation.Unambiguous

/-!
# Halves of surrogate pairs in the text of a grammar

What is written between the literals of a grammar is plain, so half of a surrogate pair stands in
the text exactly if it stands in a literal. All literals of a schema but the names of properties and
the values of members are plain too, and no declaration is dropped with its list: whether the text
can be encoded does not depend on the lists.
-/
namespace SchemaGrammar

theorem mem_intercalate {α : Type} {a : α} {sep : List α} (h : a ∉ sep) (xss : List (List α)) :
    a ∈ sep.intercalate xss ↔ ∃ xs ∈ xss, a ∈ xs := by
  induction xss with
  | nil => simp
  | cons xs xss ih =>
    cases xss with
    | nil => simp [List.intercalate]
    | cons ys xss =>
      rw [List.intercalate_cons_cons, List.mem_append, List.mem_append, ih, or_iff_left h]
      simp

/-! ## Literals and signs -/

namespace Sign

variable {sign : Sign}

theorem head?_any_chars (h : sign.IsPlain) : sign.chars.head?.any Text.tellsHalf = false := by
  cases sign with
  | reference name =>
    obtain ⟨c, r, hname, hc, -⟩ := exists_cons_of_isPlainName h
    rw [Text.isAlpha_iff] at hc
    rw [chars, hname, List.head?_cons, Option.any_some, Bool.eq_false_iff, Ne, Text.tellsHalf_iff]
    omega
  | charClass pattern =>
    simp only [IsPlain, Builtin.patterns, List.mem_cons, List.not_mem_nil, or_false] at h
    obtain rfl | rfl | rfl | rfl | rfl := h <;> rfl
  | closing repeats => cases repeats <;> rfl
  | _ => rfl

theorem halfMark_not_mem (h : sign.IsPlain) (hliteral : ∀ text, sign ≠ literal text) :
    Text.halfMark ∉ sign.chars := by
  cases sign with
  | literal text => exact absurd rfl (hliteral text)
  | reference name => exact fun hmem => nomatch (isPlainName_iff.mp h).2 _ hmem
  | charClass pattern =>
    simp only [IsPlain, Builtin.patterns, List.mem_cons, List.not_mem_nil, or_false] at h
    obtain rfl | rfl | rfl | rfl | rfl := h <;> decide
  | closing repeats => cases repeats <;> decide
  | _ => decide

/-- Only literals hold halves. -/
theorem holdsHalf_chars_iff (h : sign.IsPlain) : Text.holdsHalf sign.chars = true ↔
    ∃ text, sign = .literal text ∧ Text.holdsHalf text.toList = true := by
  by_cases hliteral : ∃ text, sign = literal text
  · obtain ⟨text, rfl⟩ := hliteral
    simp [chars, Text.holdsHalf_quote]
  · rw [not_exists] at hliteral
    simp [Text.holdsHalf_of_not_mem (halfMark_not_mem h hliteral), hliteral]

end Sign

theorem Rule.literal_mem_signs {text : String} {rule : Rule} :
    Sign.literal text ∈ rule.signs ↔ text ∈ rule.literals := by
  have hrules (sign : Sign) (hsign : Sign.literal text ≠ sign) {rules : List Rule}
      (h : ∀ rule ∈ rules, Sign.literal text ∈ rule.signs ↔ text ∈ rule.literals) :
      Sign.literal text ∈ [sign].intercalate (rules.map signs) ↔ text ∈ rules.flatMap literals := by
    rw [mem_intercalate (by simpa using hsign), List.mem_flatMap]
    simp only [List.mem_map, exists_exists_and_eq_and]
    exact exists_congr fun rule => and_congr_right fun hrule => h rule hrule
  induction rule using Rule.induction with
  | sequence rules ih =>
    rw [signs, literals, signsOf_eq_map, literalsOf_eq_flatMap]
    exact hrules .gap (by simp) ih
  | group rules repeats ih =>
    rw [signs, literals, signsOf_eq_map, literalsOf_eq_flatMap, ← hrules .gap (by simp) ih]
    simp
  | literal text => simp [signs, literals]
  | reference name => simp [signs, literals]
  | charClass pattern => simp [signs, literals]
  | choice first second others hfirst hsecond hothers =>
    have hoptions : ∀ rule ∈ first :: second :: others,
        Sign.literal text ∈ rule.signs ↔ text ∈ rule.literals := by
      simpa using ⟨hfirst, hsecond, hothers⟩
    have hall := hrules .bar (by simp) hoptions
    rw [signs, literals, signsOf_eq_map, literalsOf_eq_flatMap]
    simpa [or_assoc] using hall

namespace Element.IsPlain

variable {e : Element}

theorem head?_any_text (h : e.IsPlain) : e.text.toList.head?.any Text.tellsHalf = false := by
  have hplain : (Sign.reference e.name).IsPlain := h.name
  obtain ⟨c, r, hname, -⟩ := Sign.exists_cons_of_isPlainName h.name
  have hhead := Sign.head?_any_chars hplain
  rw [Sign.chars, hname] at hhead
  rw [toList_text, hname]
  exact hhead

/-- A line holds a half exactly if one of its literals does. -/
theorem holdsHalf_text_iff (h : e.IsPlain) : Text.holdsHalf e.text.toList = true ↔
    ∃ text ∈ e.alternatives.flatMap Rule.literals, Text.holdsHalf text.toList = true := by
  have hplain := h.legible_signs.plain
  have hname : Text.halfMark ∉ e.name.toList := by
    have hreference : (Sign.reference e.name).IsPlain := h.name
    exact Sign.halfMark_not_mem hreference (by simp)
  have hseparator : Text.halfMark ∉ " ::= ".toList := by decide
  have hliteral (text : String) :
      Sign.literal text ∈ e.signs ↔ text ∈ e.alternatives.flatMap Rule.literals := by
    rw [signs, mem_intercalate (by simp), List.mem_flatMap]
    simp only [List.mem_map, exists_exists_and_eq_and, Rule.literal_mem_signs]
  rw [toList_text, List.append_assoc, Text.holdsHalf_append_of_not_mem hname,
    Text.holdsHalf_append_of_not_mem hseparator,
    Text.holdsHalf_flatMap fun sign hsign => Sign.head?_any_chars (hplain sign hsign),
    List.any_eq_true]
  constructor
  · rintro ⟨sign, hsign, hhalf⟩
    obtain ⟨text, rfl, htext⟩ := (Sign.holdsHalf_chars_iff (hplain sign hsign)).mp hhalf
    exact ⟨text, (hliteral text).mp hsign, htext⟩
  · rintro ⟨text, hmem, htext⟩
    have hsign := (hliteral text).mpr hmem
    exact ⟨_, hsign, (Sign.holdsHalf_chars_iff (hplain _ hsign)).mpr ⟨text, rfl, htext⟩⟩

end Element.IsPlain

theorem Grammar.holdsHalf_lines_iff {g : Grammar} (h : ∀ e ∈ g.elements, e.IsPlain) :
    Text.holdsHalf g.lines.toList = true ↔ ∃ e ∈ g.elements,
      ∃ text ∈ e.alternatives.flatMap Rule.literals, Text.holdsHalf text.toList = true := by
  have hhead : ∀ e ∈ g.elements, (e.text.toList ++ ['\n']).head?.any Text.tellsHalf = false := by
    intro e he
    have hline := (h e he).head?_any_text
    cases htext : e.text.toList with
    | nil => rfl
    | cons c cs => rwa [htext] at hline
  rw [toList_lines, Text.holdsHalf_flatMap hhead, List.any_eq_true]
  refine exists_congr fun e => and_congr_right fun he => ?_
  rw [Text.holdsHalf_append e.text.toList (w := ['\n']) rfl, ← (h e he).holdsHalf_text_iff]
  exact Eq.congr (Bool.or_false _) rfl

/-! ## Halves in schemas -/

/-- The texts that a declaration gives to literals: names of properties and values of members. -/
def Declaration.quotedTexts : Declaration → List String
  | .record r => r.properties.map Property.name
  | .enumeration e => e.members.filterMap Member.value
  | .other _ => []

/-- Whether a name of a property or a value of a member holds half of a surrogate pair. -/
def Schema.HoldsHalf (s : Schema) : Prop :=
  ∃ d ∈ s.declarations, ∃ text ∈ d.quotedTexts, Text.holdsHalf text.toList = true

theorem Property.holdsHalf_key (p : Property) :
    Text.holdsHalf p.key.toList = Text.holdsHalf p.name.toList := by
  rw [key, String.toList_append, Text.toList_quoted, Text.holdsHalf_append _ (by rfl),
    Text.holdsHalf_quote]
  exact Bool.or_false _

theorem Record.IsObject.holdsHalf_iff {s : Schema} {r : Record} {e : Element}
    (h : r.IsObject s e) :
    (∃ text ∈ e.alternatives.flatMap Rule.literals, Text.holdsHalf text.toList = true) ↔
      ∃ text ∈ (Declaration.record r).quotedTexts, Text.holdsHalf text.toList = true := by
  have hkeys {text : String} (hhalf : Text.holdsHalf text.toList = true) :
      text ∈ e.alternatives.flatMap Rule.literals ↔ text ∈ r.properties.map Property.key := by
    have hne {sign : String} (hsign : Text.holdsHalf sign.toList = false) : text ≠ sign := by
      rintro rfl
      rw [hsign] at hhalf
      cases hhalf
    rw [h.literals_eq, List.mem_append, List.mem_cons, List.mem_singleton,
      or_iff_left (hne (by decide)), or_iff_right (hne (by decide)), ← List.count_pos_iff,
      count_intersperse (hne (by decide)), List.count_pos_iff]
  rw [Declaration.quotedTexts]
  constructor
  · rintro ⟨text, hmem, hhalf⟩
    obtain ⟨p, hp, rfl⟩ := List.mem_map.mp ((hkeys hhalf).mp hmem)
    exact ⟨p.name, List.mem_map_of_mem hp, p.holdsHalf_key ▸ hhalf⟩
  · rintro ⟨text, hmem, hhalf⟩
    obtain ⟨p, hp, rfl⟩ := List.mem_map.mp hmem
    rw [← p.holdsHalf_key] at hhalf
    exact ⟨p.key, (hkeys hhalf).mpr (List.mem_map_of_mem hp), hhalf⟩

theorem Enumeration.holdsHalf_iff {en : Enumeration} {e : Element} (h : en.element = .ok e) :
    (∃ text ∈ e.alternatives.flatMap Rule.literals, Text.holdsHalf text.toList = true) ↔
      ∃ text ∈ (Declaration.enumeration en).quotedTexts, Text.holdsHalf text.toList = true := by
  obtain ⟨-, hall⟩ := element_eq_ok_iff.mp h
  rw [Declaration.quotedTexts]
  generalize en.members = members, e.alternatives = alternatives at hall
  induction hall with
  | nil => simp
  | @cons m rule ms rules hm _ ih =>
    obtain ⟨v, hv, rfl⟩ := alternative_eq_ok_iff.mp hm
    rw [List.flatMap_cons, Rule.literals, List.singleton_append, List.filterMap_cons_some hv,
      List.exists_mem_cons_iff, List.exists_mem_cons_iff, ih, Text.toList_quoted,
      Text.holdsHalf_quote]

namespace Schema

variable {s : Schema} {root : String} {lists : ListElements} {e : Element}

theorem holdsHalf_of_yields {p : Production} (hp : s.Has p) (h : p.Yields s root e)
    (hhalf : ∃ text ∈ e.alternatives.flatMap Rule.literals, Text.holdsHalf text.toList = true) :
    s.HoldsHalf := by
  cases p with
  | object r =>
    exact ⟨_, mem_records.mp hp, (Record.isObject_of_yields h).holdsHalf_iff.mp hhalf⟩
  | values en => exact ⟨_, mem_enumerations.mp hp, (Enumeration.holdsHalf_iff h).mp hhalf⟩
  | start =>
    obtain rfl := h
    exact absurd hhalf (by simp [Element.alternatives, rootElement, Rule.literals])
  | list r =>
    have hliterals : e.alternatives.flatMap Rule.literals = ["[]", "[", ",", "]"] := by
      rw [h]
      rfl
    rw [hliterals] at hhalf
    exact absurd hhalf (by decide)
  | builtin b =>
    obtain rfl := h
    exact absurd hhalf (by cases b <;> decide)

/-- The text of a grammar holds half of a surrogate pair exactly if the schema does, so this does
not depend on the lists. -/
theorem holdsHalf_grammarText_iff {text : String} (h : s.grammarText root lists = .ok text) :
    Text.holdsHalf text.toList = true ↔ s.HoldsHalf := by
  cases hg : s.grammar root lists with
  | error e =>
    rw [grammarText, hg] at h
    cases h
  | ok g =>
    have htext : g.text = .ok text := by
      rw [grammarText, hg] at h
      cases ht : g.text with
      | error e => simp [ht] at h
      | ok text' => simpa [ht] using h
    obtain ⟨hfault, rfl⟩ := Grammar.text_eq_ok_iff.mp htext
    rw [Grammar.holdsHalf_lines_iff
      (Grammar.isPlain_of_fault? hfault (hasBuiltinPatterns_of_grammar hg))]
    obtain ⟨g₀, hg₀, rfl⟩ := exists_compiled hg
    constructor
    · rintro ⟨e, he, hhalf⟩
      obtain ⟨p, hp, hy⟩ := hg₀.exists_production (hg₀.mem_withLists.mp he).1
      exact holdsHalf_of_yields hp hy hhalf
    · rintro ⟨d, hd, hhalf⟩
      cases d with
      | record r =>
        obtain ⟨e, he, hy⟩ := hg₀.exists_kept (p := .object r) (mem_records.mpr hd) (by simp) lists
        exact ⟨e, he, (Record.isObject_of_yields hy).holdsHalf_iff.mpr hhalf⟩
      | enumeration en =>
        obtain ⟨e, he, hy⟩ :=
          hg₀.exists_kept (p := .values en) (mem_enumerations.mpr hd) (by simp) lists
        exact ⟨e, he, (Enumeration.holdsHalf_iff hy).mpr hhalf⟩
      | other o =>
        obtain ⟨text, hmem, -⟩ := hhalf
        cases hmem

end Schema

end SchemaGrammar
