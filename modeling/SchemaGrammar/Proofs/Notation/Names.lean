import SchemaGrammar.Proofs.Json.Texts
import SchemaGrammar.Proofs.Notation.Signs
import SchemaGrammar.Proofs.Rendering

/-!
# The names in a grammar text

Outside the literals of a text, the runs of letters are names. Those of the text of a rule are the
names the rule refers to, from left to right, so the checks that come before a grammar is written
look at every name that is written. They fail with all names that cannot be written or, if there is
none, with all names that no element has and the elements that use them.
-/
namespace SchemaGrammar

namespace Text

mutual

/-- A text without its literals: only the opening quote of each is left. -/
def outsideQuotes : List Char → List Char
  | [] => []
  | c :: cs => c :: if c = '"' then insideQuotes cs else outsideQuotes cs

def insideQuotes : List Char → List Char
  | [] => []
  | '"' :: cs => outsideQuotes cs
  | '\\' :: _ :: cs => insideQuotes cs
  | _ :: cs => insideQuotes cs

end

def letterRuns (cs : List Char) : List (List Char) :=
  (cs.splitOnP (!·.isAlpha)).filter (· ≠ [])

def bareNames (cs : List Char) : List String :=
  (letterRuns (outsideQuotes cs)).map String.ofList

def isNeutral (c : Char) : Bool := !c.isAlpha && c != '"'

theorem letterRuns_append_cons {c : Char} (hc : c.isAlpha = false) (v w : List Char) :
    letterRuns (v ++ c :: w) = letterRuns v ++ letterRuns w := by
  unfold letterRuns
  rw [List.splitOnP_append_cons v w (by simp [hc]), List.filter_append]

theorem letterRuns_of_isPlainName {name : String} (h : isPlainName name = true) :
    letterRuns name.toList = [name.toList] := by
  obtain ⟨hne, hletters⟩ := isPlainName_iff.mp h
  rw [letterRuns, List.splitOnP_eq_singleton (by simpa using hletters)]
  simpa using hne

theorem insideQuotes_of_ne {c : Char} (hquote : c ≠ '"') (hslash : c ≠ '\\') (cs : List Char) :
    insideQuotes (c :: cs) = insideQuotes cs := by
  rw [insideQuotes.eq_def]
  split <;> simp_all

theorem insideQuotes_append {ds : List Char} (h : ∀ d ∈ ds, d ≠ '"' ∧ d ≠ '\\') (cs : List Char) :
    insideQuotes (ds ++ cs) = insideQuotes cs := by
  induction ds with
  | nil => rfl
  | cons d ds ih =>
    rw [List.forall_mem_cons] at h
    rw [List.cons_append, insideQuotes_of_ne h.1.1 h.1.2, ih h.2]

/-- A literal ends with the first quote after its content. -/
theorem insideQuotes_content {ns : List Nat} {w : List Char} (h : Json.Content ns w)
    (cs : List Char) : insideQuotes (w ++ '"' :: cs) = outsideQuotes cs := by
  induction h with
  | nil => rfl
  | plain _ hquote hslash _ ih => rw [List.cons_append, insideQuotes_of_ne hquote hslash, ih]
  | escape _ _ ih => exact ih
  | @hex digits _ w _ hdigits _ ih =>
    change insideQuotes (digits ++ w ++ '"' :: cs) = outsideQuotes cs
    rw [List.append_assoc, insideQuotes_append, ih]
    intro d hd
    have hdigit := hdigits d hd
    constructor <;> (rintro rfl; cases hdigit)

theorem outsideQuotes_quote (v cs : List Char) :
    outsideQuotes (quote v ++ cs) = '"' :: outsideQuotes cs := by
  rw [← insideQuotes_content (Json.content_flatMap_escape v) cs, quote, List.append_assoc]
  rfl

/-- Every literal of a text is closed, and outside of them stand these names. -/
structure Shows (cs : List Char) (names : List String) : Prop where
  closed : ∀ w, outsideQuotes (cs ++ w) = outsideQuotes cs ++ outsideQuotes w
  bareNames_eq : bareNames cs = names

namespace Shows

variable {v w : List Char} {names names' : List String}

theorem nil : Shows [] [] := ⟨fun _ => rfl, rfl⟩

theorem quote (v : List Char) : Shows (quote v) [] := by
  have hquote : outsideQuotes (Text.quote v) = ['"'] := by
    simpa [outsideQuotes] using outsideQuotes_quote v []
  exact ⟨fun w => by rw [outsideQuotes_quote, hquote]; rfl, by rw [bareNames, hquote]; rfl⟩

theorem outsideQuotes_of_not_mem (h : '"' ∉ v) (w : List Char) :
    outsideQuotes (v ++ w) = v ++ outsideQuotes w := by
  induction v with
  | nil => rfl
  | cons c v ih =>
    rw [List.mem_cons, not_or] at h
    rw [List.cons_append, outsideQuotes, if_neg (Ne.symm h.1), ih h.2, List.cons_append]

theorem outsideQuotes_self (h : '"' ∉ v) : outsideQuotes v = v := by
  simpa [outsideQuotes] using outsideQuotes_of_not_mem h []

theorem name {name : String} (h : isPlainName name = true) : Shows name.toList [name] := by
  have hquote : '"' ∉ name.toList := fun hmem => nomatch (isPlainName_iff.mp h).2 _ hmem
  refine ⟨fun w => ?_, ?_⟩
  · rw [outsideQuotes_of_not_mem hquote, outsideQuotes_self hquote]
  · rw [bareNames, outsideQuotes_self hquote, letterRuns_of_isPlainName h, List.map_singleton,
      String.ofList_toList]

/-- Texts on both sides of a neutral character. -/
theorem append_cons (hv : Shows v names) {c : Char} (hc : isNeutral c = true)
    (hw : Shows w names') : Shows (v ++ c :: w) (names ++ names') := by
  rw [isNeutral, Bool.and_eq_true, Bool.not_eq_true', bne_iff_ne] at hc
  obtain ⟨hletter, hquote⟩ := hc
  have hcons (x : List Char) : outsideQuotes (c :: x) = c :: outsideQuotes x := by
    rw [outsideQuotes, if_neg hquote]
  refine ⟨fun x => ?_, ?_⟩
  · rw [List.append_assoc, hv.closed, hv.closed, List.cons_append, hcons, hw.closed, hcons,
      List.append_assoc, List.cons_append]
  · rw [bareNames, hv.closed, hcons, letterRuns_append_cons hletter, List.map_append,
      ← hv.bareNames_eq, ← hw.bareNames_eq, bareNames, bareNames]

theorem cons {c : Char} (hc : isNeutral c = true) (hw : Shows w names) : Shows (c :: w) names :=
  nil.append_cons hc hw

/-- Texts on both sides of neutral characters. -/
theorem append_separator (hv : Shows v names) {separator : List Char} (hne : separator ≠ [])
    (h : ∀ c ∈ separator, isNeutral c = true) (hw : Shows w names') :
    Shows (v ++ separator ++ w) (names ++ names') := by
  obtain ⟨c, separator, rfl⟩ := List.exists_cons_of_ne_nil hne
  rw [List.forall_mem_cons] at h
  have hrest : Shows (separator ++ w) names' := by
    have htail := h.2
    clear hne h
    induction separator with
    | nil => exact hw
    | cons d separator ih =>
      rw [List.forall_mem_cons] at htail
      exact (ih htail.2).cons htail.1
  rw [List.append_assoc, List.cons_append]
  exact hv.append_cons h.1 hrest

end Shows

end Text

namespace Rule

open Text

/-- The texts of rules with a separator between them show the names that the rules refer to. -/
theorem shows_intercalate {separator : String} (hne : separator.toList ≠ [])
    (hseparator : separator.toList.all isNeutral = true) {rules : List Rule}
    (h : ∀ rule ∈ rules, Shows rule.text.toList rule.references) :
    Shows (separator.intercalate (rules.map text)).toList (rules.flatMap references) := by
  rw [String.toList_intercalate, List.map_map]
  induction rules with
  | nil => exact .nil
  | cons rule rules ih =>
    rw [List.forall_mem_cons] at h
    cases rules with
    | nil => simpa [List.intercalate] using h.1
    | cons rule' rules =>
      have hrest := ih h.2
      rw [List.map_cons] at hrest
      rw [List.map_cons, List.map_cons, List.intercalate_cons_cons, List.flatMap_cons]
      exact h.1.append_separator hne (List.all_eq_true.mp hseparator) hrest

theorem shows_parenthesized {w after : List Char} {names : List String} (hw : Shows w names)
    (hafter : Shows after []) : Shows ('(' :: (w ++ ')' :: after)) names := by
  have hneutral : isNeutral ')' = true := rfl
  have hclosed := hw.append_cons hneutral hafter
  rw [List.append_nil] at hclosed
  exact hclosed.cons rfl

/-- The names in the text of a rule are those that the rule refers to, in order. -/
theorem shows_text (rule : Rule) (hpatterns : ∀ pattern, ¬ (Rule.charClass pattern).Within rule)
    (hnames : ∀ name, (Rule.reference name).Within rule → isPlainName name = true) :
    Shows rule.text.toList rule.references := by
  have hmember : memberSeparator.toList.all isNeutral = true := rfl
  have hoption : optionSeparator.toList.all isNeutral = true := rfl
  induction rule using Rule.induction with
  | sequence rules ih =>
    rw [text, references, texts_eq_map, referencesOf_eq_flatMap]
    refine shows_intercalate (by decide) hmember fun rule hrule => ih rule hrule ?_ ?_
    · exact fun pattern hp => hpatterns pattern (.sequence hrule hp)
    · exact fun name hn => hnames name (.sequence hrule hn)
  | group rules repeats ih =>
    have hrules : Shows (memberSeparator.intercalate (rules.map text)).toList
        (rules.flatMap references) := by
      refine shows_intercalate (by decide) hmember fun rule hrule => ih rule hrule ?_ ?_
      · exact fun pattern hp => hpatterns pattern (.group hrule hp)
      · exact fun name hn => hnames name (.group hrule hn)
    have hstar : Shows (if repeats then "*" else "").toList [] := by
      cases repeats with
      | false => exact .nil
      | true => exact .cons rfl .nil
    rw [text, references, texts_eq_map, referencesOf_eq_flatMap]
    simpa using shows_parenthesized hrules hstar
  | literal text =>
    rw [Rule.text, references, toList_quoted]
    exact .quote _
  | reference name => exact .name (hnames name .self)
  | charClass pattern => exact absurd .self (hpatterns pattern)
  | choice first second others hfirst hsecond hothers =>
    have hrules : Shows (optionSeparator.intercalate ((first :: second :: others).map text)).toList
        ((first :: second :: others).flatMap references) := by
      refine shows_intercalate (by decide) hoption ?_
      simp only [List.forall_mem_cons]
      refine ⟨hfirst ?_ ?_, hsecond ?_ ?_, fun rule hrule => hothers rule hrule ?_ ?_⟩
      · exact fun pattern hp => hpatterns pattern (.first hp)
      · exact fun name hn => hnames name (.first hn)
      · exact fun pattern hp => hpatterns pattern (.second hp)
      · exact fun name hn => hnames name (.second hn)
      · exact fun pattern hp => hpatterns pattern (.other hrule hp)
      · exact fun name hn => hnames name (.other hrule hn)
    rw [text, references, texts_eq_map, referencesOf_eq_flatMap]
    simpa using shows_parenthesized hrules .nil

/-- A name is among those a rule refers to if a reference to it is nested in the rule. -/
theorem mem_references_iff {name : String} {rule : Rule} :
    name ∈ rule.references ↔ (Rule.reference name).Within rule := by
  refine ⟨fun h => ?_, mem_references_of_within⟩
  induction rule using Rule.induction with
  | sequence rules ih =>
    rw [references, referencesOf_eq_flatMap, List.mem_flatMap] at h
    obtain ⟨rule, hrule, hname⟩ := h
    exact .sequence hrule (ih rule hrule hname)
  | group rules repeats ih =>
    rw [references, referencesOf_eq_flatMap, List.mem_flatMap] at h
    obtain ⟨rule, hrule, hname⟩ := h
    exact .group hrule (ih rule hrule hname)
  | literal text => cases h
  | reference name' =>
    rw [references, List.mem_singleton] at h
    exact h ▸ .self
  | charClass pattern => cases h
  | choice first second others hfirst hsecond hothers =>
    rw [references, referencesOf_eq_flatMap, List.mem_append, List.mem_append,
      List.mem_flatMap] at h
    obtain (hname | hname) | ⟨rule, hrule, hname⟩ := h
    · exact .first (hfirst hname)
    · exact .second (hsecond hname)
    · exact .other hrule (hothers rule hrule hname)

end Rule

def Element.RefersTo (e : Element) (name : String) : Prop :=
  ∃ rule ∈ e.alternatives, (Rule.reference name).Within rule

theorem Element.mem_references_iff {e : Element} {name : String} :
    name ∈ e.references ↔ e.RefersTo name := by
  simp only [references, List.mem_flatMap, Rule.mem_references_iff, RefersTo]

namespace Grammar

variable {g : Grammar}

/-- What is said about missing names: each that is referred to and that no element has, in order,
with the names of all elements that refer to it, in order. -/
structure ReportsMissing (g : Grammar) (uses : List (String × List String)) : Prop where
  names_sorted : (uses.map Prod.fst).Pairwise (· < ·)
  mem_names_iff : ∀ name, name ∈ uses.map Prod.fst ↔
    name ∉ g.names ∧ ∃ e ∈ g.elements, e.RefersTo name
  users_sorted : ∀ use ∈ uses, use.2.Pairwise (· < ·)
  mem_users_iff : ∀ use ∈ uses, ∀ user, user ∈ use.2 ↔
    ∃ e ∈ g.elements, e.name = user ∧ e.RefersTo use.1

theorem mem_missingNames_iff {name : String} :
    name ∈ g.missingNames ↔ name ∉ g.names ∧ ∃ e ∈ g.elements, e.RefersTo name := by
  simp only [mem_missingNames, Element.mem_references_iff]

theorem mem_usersOf {name user : String} :
    user ∈ g.usersOf name ↔ ∃ e ∈ g.elements, e.name = user ∧ e.RefersTo name := by
  simp only [usersOf, Text.mem_sortedNames, List.mem_map, List.mem_filter, List.contains_eq_mem,
    decide_eq_true_eq, Element.mem_references_iff, and_assoc]
  constructor
  · rintro ⟨e, he, huse, hname⟩
    exact ⟨e, he, hname, huse⟩
  · rintro ⟨e, he, hname, huse⟩
    exact ⟨e, he, huse, hname⟩

/-- There is one such report, and it is made of the missing names and their users. -/
theorem reportsMissing_iff {uses : List (String × List String)} :
    g.ReportsMissing uses ↔ uses = g.missingNames.map fun name => (name, g.usersOf name) := by
  constructor
  · intro h
    have hnames : uses.map Prod.fst = g.missingNames :=
      Text.eq_sortedNames_iff.mpr ⟨h.names_sorted, fun name => by
        rw [h.mem_names_iff, ← mem_missingNames_iff, missingNames, Text.mem_sortedNames]⟩
    have husers : ∀ use ∈ uses, use = (use.1, g.usersOf use.1) := by
      intro use huse
      have heq : use.2 = g.usersOf use.1 :=
        Text.eq_sortedNames_iff.mpr ⟨h.users_sorted use huse, fun user => by
          rw [h.mem_users_iff use huse, ← mem_usersOf, usersOf, Text.mem_sortedNames]⟩
      rw [← heq]
    rw [← hnames, List.map_map]
    exact (List.map_id _).symm.trans (List.map_congr_left husers)
  · rintro rfl
    have hfst : (g.missingNames.map fun name => (name, g.usersOf name)).map Prod.fst =
        g.missingNames := by
      rw [List.map_map]
      exact List.map_id _
    refine ⟨?_, fun name => ?_, ?_, ?_⟩
    · rw [hfst]
      exact Text.pairwise_sortedNames _
    · rw [hfst, mem_missingNames_iff]
    · intro use huse
      obtain ⟨name, -, rfl⟩ := List.mem_map.mp huse
      exact Text.pairwise_sortedNames _
    · intro use huse user
      obtain ⟨name, -, rfl⟩ := List.mem_map.mp huse
      exact mem_usersOf

theorem fault?_eq_invalidNames_iff {names : List String} :
    g.fault? = some (.invalidNames names) ↔
      (∃ name ∈ g.names, isPlainName name = false) ∧ names = g.names.filter (!isPlainName ·) := by
  have hsome : (∃ name ∈ g.names, isPlainName name = false) ↔ g.invalidNames ≠ [] := by
    simp [Ne, invalidNames_eq_nil_iff]
  rw [hsome, fault?, ← invalidNames]
  by_cases hinvalid : g.invalidNames = []
  · rw [if_neg (not_not.mpr hinvalid)]
    split_ifs <;> simp [hinvalid]
  · rw [if_pos hinvalid, Option.some.injEq, RenderError.invalidNames.injEq]
    exact ⟨fun h => ⟨hinvalid, h.symm⟩, fun h => h.2.symm⟩

theorem fault?_eq_danglingReferences_iff {uses : List (String × List String)} :
    g.fault? = some (.danglingReferences uses) ↔
      (∀ name ∈ g.names, isPlainName name = true) ∧
      (∃ e ∈ g.elements, ∃ name, e.RefersTo name ∧ name ∉ g.names) ∧ g.ReportsMissing uses := by
  have hsome : (∃ e ∈ g.elements, ∃ name, e.RefersTo name ∧ name ∉ g.names) ↔
      g.missingNames ≠ [] := by
    simp [Ne, missingNames_eq_nil_iff, Element.mem_references_iff]
  rw [← invalidNames_eq_nil_iff, hsome, reportsMissing_iff, fault?]
  by_cases hinvalid : g.invalidNames = []
  · rw [if_neg (not_not.mpr hinvalid)]
    by_cases hmissing : g.missingNames = []
    · simp [hmissing]
    · rw [if_pos hmissing, Option.some.injEq, RenderError.danglingReferences.injEq]
      exact ⟨fun h => ⟨hinvalid, hmissing, h.symm⟩, fun h => h.2.2.symm⟩
  · simp [hinvalid]

/-- The checks see every name that is written, and they fail with all names that are at fault. -/
theorem written_names_checked :
    (∀ rule : Rule, (∀ pattern, ¬ (Rule.charClass pattern).Within rule) →
      (∀ name, (Rule.reference name).Within rule → isPlainName name = true) →
      Text.bareNames rule.text.toList = rule.references) ∧
    ∀ g : Grammar,
      (∀ names, g.fault? = some (.invalidNames names) ↔
        (∃ name ∈ g.names, isPlainName name = false) ∧
        names = g.names.filter (!isPlainName ·)) ∧
      (∀ uses, g.fault? = some (.danglingReferences uses) ↔
        (∀ name ∈ g.names, isPlainName name = true) ∧
        (∃ e ∈ g.elements, ∃ name, e.RefersTo name ∧ name ∉ g.names) ∧ g.ReportsMissing uses) ∧
      (g.fault? = none ↔ (∀ name ∈ g.names, isPlainName name = true) ∧
        ∀ e ∈ g.elements, ∀ name, e.RefersTo name → name ∈ g.names) ∧
      (g.fault? = none → g.text = .ok g.lines) := by
  refine ⟨fun rule hpatterns hnames => (rule.shows_text hpatterns hnames).bareNames_eq, fun g => ?_⟩
  refine ⟨fun _ => fault?_eq_invalidNames_iff, fun _ => fault?_eq_danglingReferences_iff, ?_,
    fun h => text_eq_ok_iff.mpr ⟨h, rfl⟩⟩
  simp only [fault?_eq_none_iff, Element.mem_references_iff]

def quotingRule : Rule :=
  .sequence [.literal "a \"b\\", .reference "Foo", .group [.literal "Bar", .reference "Foo"] true,
    .choice (.reference "Bar") (.literal "Foo") [.reference "Baz"]]

/-- A grammar in which two elements refer to a name that no element has. -/
def danglingGrammar : Grammar where
  elements := [⟨"root", .sequence [.group [.reference "B"] true, .reference "A"], []⟩,
    ⟨"A", .reference "B", [.literal "x"]⟩]

theorem written_names_checked_dangling :
    Text.bareNames quotingRule.text.toList = ["Foo", "Foo", "Bar", "Baz"] ∧
    danglingGrammar.fault? = some (.danglingReferences [("B", ["A", "root"])]) := by
  obtain ⟨hnames, hfault⟩ := written_names_checked
  constructor
  · refine hnames quotingRule (by simp [quotingRule]) fun name hname => ?_
    have hplain : ∀ name ∈ quotingRule.references, isPlainName name = true := by decide
    exact hplain name (Rule.mem_references_iff.mpr hname)
  · have hmissing : ["B"] = danglingGrammar.missingNames :=
      Text.eq_sortedNames_iff.mpr ⟨by decide, fun name => by
        change name ∈ ["B"] ↔ name ∈ ["B", "B"]
        simp⟩
    have husers : ["A", "root"] = danglingGrammar.usersOf "B" :=
      Text.eq_sortedNames_iff.mpr ⟨by decide, fun name => by
        change name ∈ ["A", "root"] ↔ name ∈ ["root", "A"]
        simp [or_comm]⟩
    have hreports : danglingGrammar.ReportsMissing [("B", ["A", "root"])] := by
      rw [reportsMissing_iff, ← hmissing, List.map_singleton, ← husers]
    refine ((hfault _).2.1 _).mpr ⟨by decide, ?_, hreports⟩
    exact ⟨_, .tail _ (.head _), "B", ⟨_, .head _, .self⟩, by decide⟩

end Grammar

end SchemaGrammar
