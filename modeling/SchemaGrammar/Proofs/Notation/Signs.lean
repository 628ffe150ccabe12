import Mathlib.Data.List.Chain
import SchemaGrammar.Grammar.Rendering
import SchemaGrammar.Proofs.Notation.NormalForm
import SchemaGrammar.Proofs.Source.Strings

/-!
# The signs of a grammar text

The text of a rule is a row of signs: separators, parentheses, literals, names and patterns. Where
names are plain and no two of the latter three stand side by side, the first sign can be told from
the text alone, hence so can all of them.
-/
namespace SchemaGrammar

theorem isPlainName_iff {name : String} :
    isPlainName name = true ↔ name.toList ≠ [] ∧ ∀ c ∈ name.toList, c.isAlpha = true := by
  simp [isPlainName]

def Builtin.patterns : List String :=
  ["([^\"]*)", "[ \\t\\n]*", "[0-9]+", "\".\"?", "[0-9]*"]

inductive Sign where
  /-- Between the members of a sequence. -/
  | gap
  /-- Between options. -/
  | bar
  | opening
  | closing (repeats : Bool)
  | literal (text : String)
  | reference (name : String)
  | charClass (pattern : String)

namespace Sign

def chars : Sign → List Char
  | gap => memberSeparator.toList
  | bar => optionSeparator.toList
  | opening => ['(']
  | closing repeats => if repeats then [')', '*'] else [')']
  | literal text => Text.quote text.toList
  | reference name => name.toList
  | charClass pattern => pattern.toList

def isAtom : Sign → Bool
  | literal _ => true
  | reference _ => true
  | charClass _ => true
  | _ => false

end Sign

namespace Rule

mutual

def signs : Rule → List Sign
  | .sequence rules => [Sign.gap].intercalate (signsOf rules)
  | .group rules repeats =>
    .opening :: ([Sign.gap].intercalate (signsOf rules) ++ [.closing repeats])
  | .literal text => [.literal text]
  | .reference name => [.reference name]
  | .charClass pattern => [.charClass pattern]
  | .choice first second others =>
    .opening :: ([Sign.bar].intercalate (first.signs :: second.signs :: signsOf others) ++
      [.closing false])

def signsOf : List Rule → List (List Sign)
  | [] => []
  | rule :: rules => rule.signs :: signsOf rules

end

@[simp] theorem signsOf_eq_map (rules : List Rule) : signsOf rules = rules.map signs := by
  induction rules with
  | nil => rfl
  | cons rule rules ih => rw [signsOf, ih, List.map_cons]

end Rule

/-! ## Texts are made of signs -/

theorem flatMap_intercalate {α β : Type} (f : α → List β) (sep : List α) (xss : List (List α)) :
    (sep.intercalate xss).flatMap f = (sep.flatMap f).intercalate (xss.map (List.flatMap f)) := by
  induction xss with
  | nil => rfl
  | cons xs xss ih =>
    cases xss with
    | nil => simp [List.intercalate]
    | cons ys xss =>
      rw [List.intercalate_cons_cons, List.flatMap_append, List.flatMap_append, ih]
      simp only [List.map_cons, List.intercalate_cons_cons]

namespace Rule

/-- The texts of rules with a separator between them have the signs of the rules. -/
theorem toList_intercalate_text (sign : Sign) (separator : String)
    (hseparator : sign.chars = separator.toList) {rules : List Rule}
    (h : ∀ rule ∈ rules, rule.text.toList = rule.signs.flatMap Sign.chars) :
    (separator.intercalate (rules.map Rule.text)).toList =
      ([sign].intercalate (rules.map Rule.signs)).flatMap Sign.chars := by
  rw [String.toList_intercalate, flatMap_intercalate, List.flatMap_singleton, hseparator,
    List.map_map, List.map_map]
  exact congrArg _ (List.map_congr_left h)

theorem toList_text (rule : Rule) : rule.text.toList = rule.signs.flatMap Sign.chars := by
  induction rule using Rule.induction with
  | sequence rules ih =>
    rw [text, signs, texts_eq_map, signsOf_eq_map]
    exact toList_intercalate_text .gap memberSeparator rfl ih
  | group rules repeats ih =>
    rw [text, signs, texts_eq_map, signsOf_eq_map, String.toList_append, String.toList_append,
      String.toList_append, toList_intercalate_text .gap memberSeparator rfl ih, List.flatMap_cons,
      List.flatMap_append]
    cases repeats <;> simp [Sign.chars]
  | literal text => simp [Rule.text, signs, Sign.chars]
  | reference name => simp [Rule.text, signs, Sign.chars]
  | charClass pattern => simp [Rule.text, signs, Sign.chars]
  | choice first second others hfirst hsecond hothers =>
    have hoptions : ∀ rule ∈ first :: second :: others,
        rule.text.toList = rule.signs.flatMap Sign.chars := by
      simpa using ⟨hfirst, hsecond, hothers⟩
    have htexts := toList_intercalate_text .bar optionSeparator rfl hoptions
    rw [List.map_cons, List.map_cons, List.map_cons, List.map_cons] at htexts
    rw [text, signs, texts_eq_map, signsOf_eq_map, String.toList_append, String.toList_append,
      htexts, List.flatMap_cons, List.flatMap_append]
    rfl

end Rule

/-! ## Signs are told apart -/

namespace Sign

def IsPlain : Sign → Prop
  | reference name => isPlainName name = true
  | charClass pattern => pattern ∈ Builtin.patterns
  | _ => True

def Apart (a b : Sign) : Prop := a.isAtom = false ∨ b.isAtom = false

/-- Whether signs can be told from their text. -/
structure Legible (signs : List Sign) : Prop where
  plain : ∀ sign ∈ signs, sign.IsPlain
  apart : signs.IsChain Apart

def first? : List Char → Option Sign
  | [] => none
  | c :: cs =>
    if c = ' ' then some (if cs.head? = some '|' then .bar else .gap)
    else if c = '(' then
      some (if cs.take 2 = ['[', '^'] then .charClass "([^\"]*)" else .opening)
    else if c = ')' then some (.closing (cs.head? = some '*'))
    else if c = '"' then
      if cs.take 3 = ['.', '"', '?'] then some (.charClass "\".\"?")
      else (Source.stringLiteral (c :: cs)).outcome.toOption.map .literal
    else if c = '[' then
      some (.charClass (if cs.head? = some ' ' then "[ \\t\\n]*"
        else if cs[4]? = some '+' then "[0-9]+" else "[0-9]*"))
    else some (.reference (String.ofList ((c :: cs).takeWhile Char.isAlpha)))

variable {sign : Sign} {signs : List Sign}

theorem Legible.tail (h : Legible (sign :: signs)) : Legible signs :=
  ⟨fun s hs => h.plain s (List.mem_cons_of_mem _ hs), (List.isChain_cons.mp h.apart).2⟩

/-- A plain name is its first letter and more letters. -/
theorem exists_cons_of_isPlainName {name : String} (h : isPlainName name = true) :
    ∃ c r, name.toList = c :: r ∧ c.isAlpha = true ∧ ∀ x ∈ r, x.isAlpha = true := by
  obtain ⟨hne, hletters⟩ := isPlainName_iff.mp h
  obtain ⟨c, r, hname⟩ := List.exists_cons_of_ne_nil hne
  rw [hname, List.forall_mem_cons] at hletters
  exact ⟨c, r, hname, hletters⟩

/-- How signs begin: with a blank, a parenthesis, a quote, a bracket without a caret, or a name. -/
inductive Begins : List Char → Prop
  | nil : Begins []
  | mark {c cs} : c ∈ [' ', '(', ')', '"'] → Begins (c :: cs)
  | bracket {c cs} : c ≠ '^' → Begins ('[' :: c :: cs)
  | letter {c cs} : c.isAlpha = true → Begins (c :: cs)

theorem Legible.begins (h : Legible signs) : Begins (signs.flatMap chars) := by
  cases signs with
  | nil => exact .nil
  | cons sign signs =>
    have hplain := h.plain sign List.mem_cons_self
    rw [List.flatMap_cons]
    cases sign with
    | gap => exact .mark (by decide)
    | bar => exact .mark (by decide)
    | opening => exact .mark (by decide)
    | closing repeats => cases repeats <;> exact .mark (by decide)
    | literal text => exact .mark (by decide)
    | reference name =>
      obtain ⟨c, r, hname, hc, -⟩ := exists_cons_of_isPlainName hplain
      rw [chars, hname]
      exact .letter hc
    | charClass pattern =>
      simp only [IsPlain, Builtin.patterns, List.mem_cons, List.not_mem_nil, or_false] at hplain
      obtain rfl | rfl | rfl | rfl | rfl := hplain
      · exact .mark (by decide)
      · exact .bracket (by decide)
      · exact .bracket (by decide)
      · exact .mark (by decide)
      · exact .bracket (by decide)

theorem Begins.take_two_ne {cs : List Char} (h : Begins cs) : cs.take 2 ≠ ['[', '^'] := by
  cases h with
  | nil => decide
  | mark hc =>
    intro heq
    cases (List.cons.inj heq).1
    simp at hc
  | bracket hc =>
    intro heq
    simp at heq
    exact hc heq
  | letter hc =>
    intro heq
    cases (List.cons.inj heq).1
    cases hc

theorem Begins.head?_ne {cs : List Char} (h : Begins cs) {c : Char} (hc : c = '*' ∨ c = '?') :
    cs.head? ≠ some c := by
  rintro heq
  cases h with
  | nil => cases heq
  | mark hx =>
    cases heq
    obtain rfl | rfl := hc <;> simp at hx
  | bracket hx =>
    cases heq
    obtain h | h := hc <;> cases h
  | letter hx =>
    cases heq
    obtain rfl | rfl := hc <;> cases hx

/-- No letter follows an atom. -/
theorem Legible.head?_isAlpha (h : Legible (sign :: signs)) (hatom : sign.isAtom = true) :
    ∀ c ∈ (signs.flatMap chars).head?, c.isAlpha = false := by
  intro c hc
  cases signs with
  | nil => cases hc
  | cons next signs =>
    have hnext : next.isAtom = false := by
      have hapart : Apart sign next := (List.isChain_cons_cons.mp h.apart).1
      simpa [Apart, hatom] using hapart
    rw [List.flatMap_cons] at hc
    cases next with
    | gap => cases hc; rfl
    | bar => cases hc; rfl
    | opening => cases hc; rfl
    | closing repeats => cases repeats <;> (cases hc; rfl)
    | literal text => cases hnext
    | reference name => cases hnext
    | charClass pattern => cases hnext

/-- A literal is never taken for the pattern that begins with a quoted dot. -/
theorem first?_literal {text : String} {cs : List Char} (hcs : cs.head? ≠ some '?') :
    first? (Text.quote text.toList ++ cs) = some (.literal text) := by
  have hliteral := Source.stringLiteral_quote text cs
  have hquote : ∃ r, Text.quote text.toList ++ cs = '"' :: r := ⟨_, rfl⟩
  obtain ⟨r, hr⟩ := hquote
  -- else the text is a dot, and a question mark comes after the literal
  have hdot : r.take 3 ≠ ['.', '"', '?'] := by
    intro htake
    have hr' : r = '.' :: '"' :: '?' :: r.drop 3 := by
      rw [← List.take_append_drop 3 r, htake]
      rfl
    have hdot := Source.stringLiteral_quote "." ('?' :: r.drop 3)
    change Source.stringLiteral ('"' :: '.' :: '"' :: '?' :: r.drop 3) = _ at hdot
    rw [← hr', ← hr, hliteral, Source.Scan.mk.injEq, Except.ok.injEq] at hdot
    obtain ⟨rfl, -⟩ := hdot
    change '"' :: '.' :: '"' :: cs = '"' :: r at hr
    rw [hr'] at hr
    simp only [List.cons.injEq, true_and] at hr
    rw [hr] at hcs
    exact hcs rfl
  rw [hr] at hliteral ⊢
  simp [first?, hdot, hliteral]
  rfl

theorem first?_append (h : Legible (sign :: signs)) :
    first? ((sign :: signs).flatMap chars) = some sign := by
  have hplain := h.plain sign List.mem_cons_self
  have hrest := h.tail.begins
  rw [List.flatMap_cons]
  cases sign with
  | gap => rfl
  | bar => rfl
  | opening => simp [chars, first?, hrest.take_two_ne]
  | closing repeats =>
    have hstar := hrest.head?_ne (.inl rfl)
    cases repeats <;> simp [chars, first?, hstar]
  | literal text => exact first?_literal (hrest.head?_ne (.inr rfl))
  | reference name =>
    obtain ⟨c, r, hname, hc, hr⟩ := exists_cons_of_isPlainName hplain
    have htake := Source.takeWhile_append_of_head? (List.forall_mem_cons.mpr ⟨hc, hr⟩)
      (h.head?_isAlpha rfl)
    have hmark : ∀ x ∈ [' ', '(', ')', '"', '['], c ≠ x := by
      rintro x hx rfl
      simp only [List.mem_cons, List.not_mem_nil, or_false] at hx
      obtain rfl | rfl | rfl | rfl | rfl := hx <;> cases hc
    simp only [List.forall_mem_cons] at hmark
    obtain ⟨hblank, hopen, hclose, hquote, hbracket, -⟩ := hmark
    rw [chars, hname, List.cons_append, first?, if_neg hblank, if_neg hopen, if_neg hclose,
      if_neg hquote, if_neg hbracket, ← List.cons_append, htake, ← hname, String.ofList_toList]
  | charClass pattern =>
    simp only [IsPlain, Builtin.patterns, List.mem_cons, List.not_mem_nil, or_false] at hplain
    obtain rfl | rfl | rfl | rfl | rfl := hplain <;> rfl

/-- Signs that can be told from their text are equal if their texts are. -/
theorem Legible.eq_of_chars_eq {signs signs' : List Sign} (h : Legible signs) (h' : Legible signs')
    (heq : signs.flatMap chars = signs'.flatMap chars) : signs = signs' := by
  induction signs generalizing signs' with
  | nil =>
    cases signs' with
    | nil => rfl
    | cons sign' signs' =>
      have hfirst := first?_append h'
      rw [← heq] at hfirst
      cases hfirst
  | cons sign signs ih =>
    cases signs' with
    | nil =>
      have hfirst := first?_append h
      rw [heq] at hfirst
      cases hfirst
    | cons sign' signs' =>
      have hfirst : some sign = some sign' := by
        rw [← first?_append h, heq, first?_append h']
      cases hfirst
      rw [List.flatMap_cons, List.flatMap_cons] at heq
      rw [ih h.tail h'.tail (List.append_cancel_left heq)]

end Sign

end SchemaGrammar
