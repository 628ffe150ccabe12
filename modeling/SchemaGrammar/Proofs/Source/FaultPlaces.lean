import SchemaGrammar.Loading
import SchemaGrammar.Proofs.Source.Concatenation
import SchemaGrammar.Proofs.Source.LexicalFaults
import SchemaGrammar.Proofs.Source.Outcomes

/-!
# Where faults are reported

Every fault stands between two characters of its text, so its line is one of the lines of the text
and its column is that of a character of the line, or just past its end. A fault of characters is
reported where the comment, the string or the escape at fault begins.
-/
namespace SchemaGrammar

namespace Text

/-- Lines are what a text is cut into at its line feeds. -/
theorem lineAfter_eq_getElem? (n : Nat) (cs : List Char) :
    lineAfter n cs = (cs.splitOn '\n')[n]? := by
  induction n generalizing cs with
  | zero =>
    by_cases hline : '\n' ∈ cs
    · obtain ⟨line, rest, rfl, hnot⟩ := List.eq_append_cons_of_mem hline
      rw [lineAfter, List.splitOn_append_cons_self_of_not_mem hnot,
        List.takeWhile_append_of_pos (Source.forall_ne_lineEnd hnot),
        List.takeWhile_cons_of_neg (by simp), List.append_nil]
      rfl
    · rw [lineAfter, List.splitOn_eq_singleton hline,
        List.takeWhile_eq_self_iff.mpr (Source.forall_ne_lineEnd hline)]
      rfl
  | succ n ih =>
    by_cases hline : '\n' ∈ cs
    · obtain ⟨line, rest, rfl, hnot⟩ := List.eq_append_cons_of_mem hline
      rw [lineAfter, Source.dropWhile_line hnot, List.splitOn_append_cons_self_of_not_mem hnot]
      exact ih rest
    · rw [lineAfter, List.dropWhile_eq_nil_iff.mpr (Source.forall_ne_lineEnd hline),
        List.splitOn_eq_singleton hline]
      rfl

end Text

/-- A context shows a line of a text, and its caret stands under a character of the line or just
past its end. -/
structure Context.PointsInto (text : String) (c : Context) : Prop where
  one_le_line : 1 ≤ c.line
  line_le : c.line ≤ (text.toList.splitOn '\n').length
  exists_line : ∃ (line : String) (n : Nat), c.sourceLine = some line ∧
    (text.toList.splitOn '\n')[(c.line - 1).toNat]? = some line.toList ∧
    n ≤ line.length ∧ c.column = n + 1 ∧
    c.text = s!"{c.file}:{c.line}:{c.column}" ++ "\n    " ++ line ++ "\n    " ++
      String.ofList (List.replicate n ' ') ++ "^"

namespace Source

/-- The place before some of the characters of a text. -/
def Position.IsIn (cs : List Char) (p : Position) : Prop :=
  ∃ before rest, cs = before ++ rest ∧ p = Position.after before

/-- The characters of the last line begun, which tell the column after them. -/
theorem Position.exists_last (before : List Char) : ∃ last, '\n' ∉ last ∧
    (after before).column = last.length + 1 ∧
    (before = last ∨ ∃ above, before = above ++ '\n' :: last) := by
  induction before using List.reverseRecOn with
  | nil => exact ⟨[], List.not_mem_nil, rfl, .inl rfl⟩
  | append_singleton before c ih =>
    obtain ⟨last, hnot, hcolumn, hbefore⟩ := ih
    rw [after_concat, step]
    by_cases hc : c = '\n'
    · subst hc
      exact ⟨[], List.not_mem_nil, rfl, .inr ⟨before, rfl⟩⟩
    · refine ⟨last ++ [c], by simp [hnot, Ne.symm hc], ?_, ?_⟩
      · rw [if_neg hc, hcolumn, List.length_append, List.length_singleton]
      · obtain rfl | ⟨above, rfl⟩ := hbefore
        · exact .inl rfl
        · exact .inr ⟨above, by simp⟩

/-- A place in a text is in one of its lines, or at the end of one. -/
theorem Position.IsIn.exists_line {cs : List Char} {p : Position} (h : p.IsIn cs) :
    1 ≤ p.line ∧ ∃ line, Text.lineAfter (p.line - 1) cs = some line ∧
      ∃ n ≤ line.length, p.column = n + 1 := by
  obtain ⟨before, rest, rfl, rfl⟩ := h
  obtain ⟨last, hnot, hcolumn, hbefore⟩ := exists_last before
  refine ⟨Nat.le_add_left _ _, last ++ rest.takeWhile (· ≠ '\n'), ?_, last.length, ?_, hcolumn⟩
  · have hfirst : Text.lineAfter 0 (last ++ rest) = some (last ++ rest.takeWhile (· ≠ '\n')) := by
      rw [Text.lineAfter, List.takeWhile_append_of_pos (forall_ne_lineEnd hnot)]
    obtain rfl | ⟨above, rfl⟩ := hbefore
    · rw [← hfirst, after, List.count_eq_zero.mpr hnot]
      rfl
    · have hcount : (above ++ '\n' :: last).count '\n' = above.count '\n' + 1 := by
        rw [List.count_append, List.count_cons_self, List.count_eq_zero.mpr hnot]
      rw [after, hcount, Nat.add_sub_cancel, List.append_assoc, List.cons_append, ← hfirst]
      have hbelow := Text.lineAfter_append_line above (last ++ rest) 0
      rwa [Nat.zero_add] at hbelow
  · rw [List.length_append]
    exact Nat.le_add_right _ _

/-- A context made for a place in a text points into the text. -/
theorem Position.IsIn.pointsInto {text : String} {p : Position} (h : p.IsIn text.toList)
    (htext : text ≠ "") (file : Path) :
    (Context.ofText file text p.line p.column).PointsInto text := by
  obtain ⟨hline, line, hsome, n, hn, hcolumn⟩ := h.exists_line
  have hsource : (Context.ofText file text p.line p.column).sourceLine =
      some (String.ofList line) := by
    have hle : ¬ (p.line : Int) < 1 := by omega
    have hindex : ((p.line : Int) - 1).toNat = p.line - 1 := by omega
    rw [Context.ofText, if_neg htext, Text.line?, if_neg hle, hindex, hsome, Option.map_some]
  rw [Text.lineAfter_eq_getElem?] at hsome
  have hlength := (List.getElem?_eq_some_iff.mp hsome).1
  refine ⟨?_, ?_, String.ofList line, n, hsource, ?_, ?_, ?_, ?_⟩
  · simp only [Context.ofText]
    omega
  · simp only [Context.ofText]
    omega
  · have hindex : ((p.line : Int) - 1).toNat = p.line - 1 := by omega
    rw [String.toList_ofList, ← hsome, Context.ofText, hindex]
  · rwa [String.length_ofList]
  · simp [Context.ofText, hcolumn]
  · rw [Context.text, hsource]
    simp [Context.ofText, hcolumn]

/-! ## Tokens and their places -/

variable {before cs : List Char} {ts : List Token}

theorem Tiled.position_isIn (h : Tiled before cs ts) :
    ∀ t ∈ ts, t.position.IsIn (before ++ cs) := by
  induction h with
  | @done before cs _ => exact List.forall_mem_singleton.mpr ⟨before ++ cs, [], by simp, rfl⟩
  | @token before pad chars rest l ts _ _ _ ih =>
    refine List.forall_mem_cons.mpr ⟨⟨before ++ pad, chars ++ rest, by simp, rfl⟩, ?_⟩
    simpa using ih

theorem Spelled.isName {rest chars : List Char} {l : Lexeme} (h : Spelled rest l chars)
    (hname : l.1.isName = true) : IsName l.2 := by
  cases h with
  | @word c taken hstart hall _ => exact ⟨c, taken, String.toList_ofList, hstart, hall⟩
  | _ => cases hname

theorem Tiled.named (h : Tiled before cs ts) : Named ts := by
  induction h with
  | done => exact List.forall_mem_singleton.mpr nofun
  | token _ hspelled _ ih => exact List.forall_mem_cons.mpr ⟨hspelled.isName, ih⟩

/-- The tokens of a text tile it, and the mark for its end stands there. -/
theorem tiled_of_tokenList {text : String} {finish : Position}
    (h : tokenList text = .ok (ts, finish)) :
    finish = Position.after text.toList ∧ Tiled [] text.toList (ts ++ [Token.atEnd finish]) := by
  rw [tokenList] at h
  cases htokens : tokens text with
  | error e =>
    rw [htokens] at h
    cases h
  | ok us =>
    obtain ⟨body, spans, rfl, -⟩ := (tokens_eq_ok_iff.mp htokens).exists_spans
    rw [htokens, Except.map, List.dropLast_concat, List.getLast?_concat, Except.ok.injEq,
      Prod.mk.injEq] at h
    obtain ⟨rfl, rfl⟩ := h
    exact ⟨rfl, tokens_eq_ok_iff.mp htokens⟩

theorem headPosition_isIn {cs : List Char} {finish : Position} {ts rest : List Token}
    (hts : ∀ t ∈ ts, t.position.IsIn cs) (hfinish : finish.IsIn cs) (hrest : rest <:+ ts) :
    (headPosition finish rest).IsIn cs := by
  cases rest with
  | nil => exact hfinish
  | cons t r => exact hts t (hrest.subset List.mem_cons_self)

section TokenList

variable {text : String} {finish : Position} (h : tokenList text = .ok (ts, finish))
include h

theorem named_of_tokenList : Named ts := fun t ht =>
  (tiled_of_tokenList h).2.named t (List.mem_append_left _ ht)

/-- Reading declarations goes no further than the tokens. -/
theorem suffix_of_tokenList (file : Path) : (declarations file ts).rest <:+ ts :=
  (within_declarations file ts (named_of_tokenList h)).1

/-- A fault of tokens stands at a token or at the end, and is not one of characters. -/
theorem isIn_of_declarations {file : Path} {cause : FaultCause} {rest : List Token}
    (hfault : declarations file ts = .fault cause rest) :
    cause.isLexical = false ∧ (headPosition finish rest).IsIn text.toList := by
  obtain ⟨rfl, htiled⟩ := tiled_of_tokenList h
  have hwithin := within_declarations file ts (named_of_tokenList h)
  rw [hfault] at hwithin
  have hplaces : ∀ t ∈ ts, t.position.IsIn text.toList := fun t ht =>
    htiled.position_isIn t (List.mem_append_left _ ht)
  exact ⟨hwithin.2, headPosition_isIn hplaces ⟨text.toList, [], by simp, rfl⟩ hwithin.1⟩

end TokenList

theorem schema_of_tokens_error {file : Path} {text : String} {f : Fault}
    (h : tokens text = .error f) : schema file text = .error f := by
  rw [schema, tokenList, h]
  rfl

/-- A source is at fault in its characters or in its tokens. -/
theorem tokens_or_isIn_of_schema {file : Path} {text : String} {f : Fault}
    (h : schema file text = .error f) :
    tokens text = .error f ∨ f.cause.isLexical = false ∧ f.position.IsIn text.toList := by
  cases htokens : tokens text with
  | error e =>
    rw [schema_of_tokens_error htokens] at h
    cases h
    exact .inl rfl
  | ok us =>
    obtain ⟨finish, hlist⟩ := tokenList_eq_ok htokens
    rw [schema, hlist] at h
    dsimp only at h
    cases hread : declarations file us.dropLast with
    | read ds rest le =>
      rw [hread] at h
      cases h
    | fault cause rest =>
      rw [hread] at h
      cases h
      exact .inr (isIn_of_declarations hlist hread)

theorem schema_eq_error_isIn {file : Path} {text : String} {f : Fault}
    (h : schema file text = .error f) : f.position.IsIn text.toList := by
  obtain htokens | ⟨-, hplace⟩ := tokens_or_isIn_of_schema h
  · obtain ⟨front, rest, n, htext, -, -, hposition⟩ := tokens_eq_error_iff.mp htokens
    exact ⟨front ++ rest.take n, rest.drop n, by simp [htext], hposition⟩
  · exact hplace

/-- A lexical fault is reported exactly where characters are broken. -/
theorem schema_eq_lexical_error_iff {file : Path} {text : String} {f : Fault}
    (hlexical : f.cause.isLexical = true) : schema file text = .error f ↔
      ∃ front rest n, text.toList = front ++ rest ∧ Scanned front rest ∧ Broken rest f.cause n ∧
        f.position = Position.after (front ++ rest.take n) := by
  rw [← tokens_eq_error_iff]
  constructor
  · intro h
    obtain htokens | ⟨hnot, -⟩ := tokens_or_isIn_of_schema h
    · exact htokens
    · rw [hlexical] at hnot
      cases hnot
  · exact schema_of_tokens_error

end Source

open Source

/-- A source declares a schema or is reported with a place in it; comments, strings and escapes at
fault are reported where they begin. No more tokens are read than there are. -/
theorem ofSource_pointsInto (file : Path) (text : String) :
    ((∃ s, Schema.ofSource file text = .ok s) ∨
      ∃ f c, Source.schema file text = .error f ∧
        c = Context.ofText file text f.position.line f.position.column ∧ c.PointsInto text ∧
        Schema.ofSource file text = .error (.fault ⟨f.cause.message, some c⟩)) ∧
    (∀ f : Fault, f.cause.isLexical = true → (Source.schema file text = .error f ↔
      ∃ front rest n, text.toList = front ++ rest ∧ Scanned front rest ∧ Broken rest f.cause n ∧
        f.position = Position.after (front ++ rest.take n))) ∧
    ∀ ts finish, tokenList text = .ok (ts, finish) → (declarations file ts).rest <:+ ts := by
  refine ⟨?_, fun f => schema_eq_lexical_error_iff, fun ts finish h => suffix_of_tokenList h file⟩
  cases hs : Source.schema file text with
  | ok s => exact .inl ⟨s, by rw [Schema.ofSource, hs, Except.mapError]⟩
  | error f =>
    have htext : text ≠ "" := by
      rintro rfl
      cases (schema_empty file).symm.trans hs
    refine .inr ⟨f, _, rfl, rfl, (schema_eq_error_isIn hs).pointsInto htext file, ?_⟩
    rw [Schema.ofSource, hs, Except.mapError, Fault.diagnostic]

def unclosedString : String := "enum E \x7b\n  A = 'a"

theorem unclosedString_pointsInto :
    (∃ c, Schema.ofSource sourceFile unclosedString =
      .error (.fault ⟨"Unterminated string literal", some c⟩) ∧ c.line = 2 ∧ c.column = 7 ∧
        c.PointsInto unclosedString) ∧
    FaultCause.unterminatedString.isLexical = true ∧
    ∃ front rest n, unclosedString.toList = front ++ rest ∧ Scanned front rest ∧
      Broken rest .unterminatedString n ∧ ⟨2, 7⟩ = Position.after (front ++ rest.take n) := by
  have hs : Source.schema sourceFile unclosedString = .error ⟨.unterminatedString, ⟨2, 7⟩⟩ := by
    decide +kernel
  obtain ⟨⟨s, hok⟩ | ⟨f, c, hf, rfl, hpoints, herror⟩, hlexical, -⟩ :=
    ofSource_pointsInto sourceFile unclosedString
  · rw [Schema.ofSource, hs] at hok
    cases hok
  · cases hs.symm.trans hf
    exact ⟨⟨_, herror, rfl, rfl, hpoints⟩, rfl, (hlexical _ rfl).mp hs⟩

end SchemaGrammar
