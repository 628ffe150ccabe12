import Mathlib.Computability.Language
import Mathlib.Order.FixedPoints
import Mathlib.Order.CompletePartialOrder
import SchemaGrammar.Grammar

/-!
# Languages of grammars

What a rule describes depends on the texts of character patterns and of the names it refers to. The
language of a grammar is the least assignment of texts to names that is closed under its elements.
The statements below give its induction principle and show that elements which are not reached from
a set of names have no influence on it.
-/
namespace SchemaGrammar
open Computability

/-- The texts of every character pattern, or of every name. -/
abbrev Assignment := String → Language Char

@[simp] theorem mem_singleton_text {v w : List Char} : w ∈ ({v} : Language Char) ↔ w = v := Iff.rfl

theorem cons_mem_mul {c : Char} {l : Language Char} {w : List Char} (hw : w ∈ l) :
    c :: w ∈ ({[c]} : Language Char) * l :=
  Language.append_mem_mul (a := [c]) rfl hw

namespace Rule

variable (chars : Assignment)

mutual

/-- The texts a rule describes, given those of patterns and names. -/
def language (names : Assignment) : Rule → Language Char
  | .sequence rules => concatenation names rules
  | .group rules repeats =>
    if repeats then (concatenation names rules)∗ else concatenation names rules
  | .literal text => {text.toList}
  | .reference name => names name
  | .charClass pattern => chars pattern
  | .choice first second others =>
    first.language names + (second.language names + union names others)

def concatenation (names : Assignment) : List Rule → Language Char
  | [] => 1
  | rule :: rules => rule.language names * concatenation names rules

def union (names : Assignment) : List Rule → Language Char
  | [] => 0
  | rule :: rules => rule.language names + union names rules

end

@[simp] theorem concatenation_append (names : Assignment) (rules others : List Rule) :
    concatenation chars names (rules ++ others) =
      concatenation chars names rules * concatenation chars names others := by
  induction rules with
  | nil => simp [concatenation]
  | cons rule rules ih => simp [concatenation, ih, mul_assoc]

theorem mem_union {names : Assignment} {rules : List Rule} {w : List Char} :
    w ∈ union chars names rules ↔ ∃ rule ∈ rules, w ∈ rule.language chars names := by
  induction rules with
  | nil => simp [union]
  | cons rule rules ih =>
    rw [union, Language.mem_add, ih]
    simp

variable {chars}

mutual

/-- A rule describes no fewer texts if no name it refers to has fewer. -/
theorem language_mono {names names' : Assignment} :
    ∀ rule : Rule, (∀ n ∈ rule.references, names n ≤ names' n) →
      rule.language chars names ≤ rule.language chars names'
  | .sequence rules, h => concatenation_mono rules (by simpa [references] using h)
  | .group rules repeats, h => by
    have hr := concatenation_mono rules (by simpa [references] using h)
    cases repeats with
    | false => simpa [language] using hr
    | true => simpa [language] using kstar_mono hr
  | .literal _, _ => le_rfl
  | .reference name, h => h name (by simp [references])
  | .charClass _, _ => le_rfl
  | .choice first second others, h => by
    simp only [references, List.mem_append] at h
    have h₁ := language_mono first fun n hn => h n (.inl (.inl hn))
    have h₂ := language_mono second fun n hn => h n (.inl (.inr hn))
    have h₃ := union_mono others fun n hn => h n (.inr hn)
    exact add_le_add h₁ (add_le_add h₂ h₃)

theorem concatenation_mono {names names' : Assignment} :
    ∀ rules : List Rule, (∀ n ∈ referencesOf rules, names n ≤ names' n) →
      concatenation chars names rules ≤ concatenation chars names' rules
  | [], _ => le_rfl
  | rule :: rules, h => by
    simp only [referencesOf, List.mem_append] at h
    exact mul_le_mul' (language_mono rule fun n hn => h n (.inl hn))
      (concatenation_mono rules fun n hn => h n (.inr hn))

theorem union_mono {names names' : Assignment} :
    ∀ rules : List Rule, (∀ n ∈ referencesOf rules, names n ≤ names' n) →
      union chars names rules ≤ union chars names' rules
  | [], _ => le_rfl
  | rule :: rules, h => by
    simp only [referencesOf, List.mem_append] at h
    exact add_le_add (language_mono rule fun n hn => h n (.inl hn))
      (union_mono rules fun n hn => h n (.inr hn))

end

end Rule

def Element.language (chars names : Assignment) (e : Element) : Language Char :=
  Rule.union chars names e.alternatives

theorem Element.language_mono {chars names names' : Assignment} (e : Element)
    (h : ∀ n ∈ e.references, names n ≤ names' n) :
    e.language chars names ≤ e.language chars names' :=
  Rule.union_mono e.alternatives (by simpa [Element.references] using h)

namespace Grammar

variable (chars : Assignment)

/-- One round of the elements: the texts they describe when names have the texts given. -/
def round (g : Grammar) : Assignment →o Assignment where
  toFun names name := ⨆ e ∈ g.elements, ⨆ _ : e.name = name, e.language chars names
  monotone' names names' h name := by
    refine iSup₂_mono fun e _ => iSup_mono fun _ => ?_
    exact e.language_mono fun n _ => h n

/-- The least assignment that is closed under the elements. -/
def language (g : Grammar) : Assignment := OrderHom.lfp (g.round chars)

theorem mem_language {g : Grammar} {name : String} {w : List Char} :
    w ∈ g.language chars name ↔
      ∃ e ∈ g.elements, e.name = name ∧ w ∈ e.language chars (g.language chars) := by
  have hfix : g.round chars (g.language chars) = g.language chars := OrderHom.map_lfp _
  have hround : g.round chars (g.language chars) name =
      ⨆ e ∈ g.elements, ⨆ _ : e.name = name, e.language chars (g.language chars) := rfl
  rw [← congrFun hfix name, hround]
  simp only [Language.mem_iSup, exists_prop]

/-- Every element describes only texts of its name. -/
theorem language_element_le {g : Grammar} {e : Element} (he : e ∈ g.elements) :
    e.language chars (g.language chars) ≤ g.language chars e.name :=
  fun _ hw => (mem_language chars).mpr ⟨e, he, rfl, hw⟩

/-- An assignment that is closed under the elements contains the language. -/
theorem language_le {g : Grammar} {names : Assignment}
    (h : ∀ e ∈ g.elements, e.language chars names ≤ names e.name) :
    g.language chars ≤ names := by
  apply OrderHom.lfp_le
  intro name
  refine iSup₂_le fun e he => iSup_le fun hname => ?_
  exact hname ▸ h e he

theorem language_mono {g g' : Grammar} (h : ∀ e ∈ g.elements, e ∈ g'.elements) :
    g.language chars ≤ g'.language chars :=
  language_le chars fun e he => language_element_le chars (h e he)

/-- If the elements of a set of names refer to that set only, all others can be removed. -/
theorem language_eq_of_closed {g g' : Grammar} (kept : Set String)
    (hsub : ∀ e ∈ g'.elements, e ∈ g.elements)
    (hkeep : ∀ e ∈ g.elements, e.name ∈ kept → e ∈ g'.elements)
    (hclosed : ∀ e ∈ g'.elements, e.name ∈ kept → ∀ n ∈ e.references, n ∈ kept)
    {name : String} (hname : name ∈ kept) :
    g'.language chars name = g.language chars name := by
  classical
  apply le_antisymm (language_mono chars hsub name)
  -- any texts will do for the other names, since no element of a kept name refers to them
  let names : Assignment := fun n => if n ∈ kept then g'.language chars n else ⊤
  have hle : g.language chars ≤ names := by
    refine language_le chars fun e he => ?_
    by_cases hk : e.name ∈ kept
    · have he' := hkeep e he hk
      have hnames : ∀ n ∈ e.references, names n ≤ g'.language chars n := by
        intro n hn
        simp only [names, if_pos (hclosed e he' hk n hn), le_refl]
      simp only [names, if_pos hk]
      exact (e.language_mono hnames).trans (language_element_le chars he')
    · simp only [names, if_neg hk, le_top]
  simpa only [names, if_pos hname] using hle name

end Grammar

end SchemaGrammar
