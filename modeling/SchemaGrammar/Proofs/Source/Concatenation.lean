import SchemaGrammar.Proofs.Source.Below
import SchemaGrammar.Proofs.Source.Continuation
import SchemaGrammar.Proofs.Source.Layout

/-!
# Sources in parts

A source of records and enumerations may be followed by another source: both are read as they are
read alone, and only the places of the second are further down. So enumerations may stand in an
extra source or in front of the source that uses them.
-/
namespace SchemaGrammar

/-! ## Lines of a text below another -/

namespace Text

theorem lineAfter_append_line (above text : List Char) (n : Nat) :
    lineAfter (n + (above.count '\n' + 1)) (above ++ '\n' :: text) = lineAfter n text := by
  induction above with
  | nil => rw [List.count_nil, List.nil_append, Nat.zero_add, lineAfter]; rfl
  | cons c above ih =>
    by_cases hc : c = '\n'
    · subst hc
      rw [List.count_cons_self, ← Nat.add_assoc n, lineAfter, List.cons_append,
        List.dropWhile_cons_of_neg (by simp)]
      exact ih
    · rw [List.count_cons_of_ne hc, ← ih, ← Nat.add_assoc n, lineAfter, lineAfter,
        List.cons_append, List.dropWhile_cons_of_pos (by simpa using hc)]

theorem line?_append_line (above text : String) {line : Nat} (h : 1 ≤ line) :
    line? (above ++ "\n" ++ text) (line + (above.toList.count '\n' + 1) : Nat) =
      line? text line := by
  have hnumber : (((line + (above.toList.count '\n' + 1) : Nat) : Int) - 1).toNat =
      ((line : Int) - 1).toNat + (above.toList.count '\n' + 1) := by
    omega
  rw [line?, line?, if_neg (by omega), if_neg (by omega), hnumber, toList_append_line,
    lineAfter_append_line]

end Text

/-! ## Declarations of both parts -/

def Location.down (n : Nat) (l : Location) : Location := { l with line := l.line + n }

/-- `l` is a location in a source, and `l'` is that location with `n` lines above the source. -/
def Location.Below (n : Nat) (l l' : Option Location) : Prop := l' = l.map (Location.down n)

namespace Source

variable {n : Nat} {file : Path}

theorem locate_below (file : Path) {p p' : Position} (h : p.Below n p') :
    Location.Below n (some (locate file p)) (some (locate file p')) := by
  obtain ⟨-, rfl⟩ := h
  rfl

theorem headPosition_below {ts ts' : List Token} (h : AllAlike (Position.Below n) ts ts')
    {finish finish' : Position} (hfinish : finish.Below n finish') :
    (headPosition finish ts).Below n (headPosition finish' ts') := by
  cases h with
  | nil => exact hfinish
  | cons ht _ => exact ht.position

/-- A source below records and enumerations has its own declarations, or its own fault. -/
theorem schema_append_line {above : String} {s : Schema} (h : schema file above = .ok s)
    (hdata : ∀ d ∈ s.declarations, d.IsData) (text : String) :
    (∃ e e', schema file text = .error e ∧ schema file (above ++ "\n" ++ text) = .error e' ∧
      e.Below (above.toList.count '\n' + 1) e') ∨
    ∃ t t', schema file text = .ok t ∧ schema file (above ++ "\n" ++ text) = .ok (s ++ t') ∧
      t.Alike (Location.Below (above.toList.count '\n' + 1)) t' := by
  obtain ⟨ts, finish₀, rest, le, habove, hread⟩ := schema_eq_ok h
  obtain ⟨e, e', he, he', hbelow⟩ | ⟨us, us', finish, finish', hus, hus', halike, hfinish⟩ :=
    tokenList_append_line habove text
  · rw [schema, schema, he, he']
    exact .inl ⟨e, e', rfl, rfl, hbelow⟩
  · have hagree := agree_declarations (fun _ _ => locate_below file) halike
      (.inl (Position.keepsLines_below _))
    rw [schema, schema, hus, hus']
    dsimp only
    -- whatever becomes of the tokens below, the declarations above are read before them
    rw [declarations_append hread hdata us']
    cases hread' : declarations file us with
    | fault cause rest' =>
      rw [hread'] at hagree
      obtain ⟨rest'', hread'', hrest⟩ := hagree.exists_of_fault
      rw [hread'']
      exact .inl ⟨_, _, rfl, rfl, rfl, headPosition_below hrest hfinish⟩
    | read ds' rest' le' =>
      rw [hread'] at hagree
      obtain ⟨ds'', rest'', le'', hread'', hds, -⟩ := hagree.exists_of_read
      rw [hread'']
      exact .inr ⟨⟨ds'⟩, ⟨ds''⟩, rfl, rfl, hds⟩

theorem schema_empty (file : Path) : schema file "" = .ok {} := by
  have htokens : tokens "" = .ok [Token.atEnd Position.start] :=
    tokens_eq_ok_iff.mpr (.done ⟨[], [], rfl, .nil, .inl rfl⟩)
  rw [schema, tokenList, htokens, Except.map]
  dsimp only
  rw [List.dropLast_singleton, declarations_of_nil file rfl]

/-- A fault of a text is reported alike, and only its line is further down. -/
theorem Fault.Below.diagnostic {above text : String} {e e' : Fault}
    (h : e.Below (above.toList.count '\n' + 1) e') (htext : text ≠ "") (file : Path) :
    ∃ message context, e.diagnostic file text = ⟨message, some context⟩ ∧
      e'.diagnostic file (above ++ "\n" ++ text) = ⟨message, some
        { context with line := context.line + (above.toList.count '\n' + 1 : Nat) }⟩ := by
  obtain ⟨hcause, hline, hposition⟩ := h
  have hwhole : above ++ "\n" ++ text ≠ "" := by
    intro hempty
    have hchars := congrArg String.toList hempty
    rw [Text.toList_append_line] at hchars
    exact List.append_ne_nil_of_right_ne_nil _ (List.cons_ne_nil _ _) hchars
  refine ⟨_, _, rfl, ?_⟩
  rw [Fault.diagnostic, hcause, hposition, Context.ofText, Context.ofText, if_neg hwhole,
    if_neg htext, Position.down]
  dsimp only
  rw [Text.line?_append_line above text hline, Int.natCast_add]

end Source

/-- A source below records and enumerations is read as it is read alone, and a diagnostic of it only
has its line further down. -/
theorem Schema.ofSource_append_line {file : Path} {above : String} {s : Schema}
    (h : ofSource file above = .ok s) (hdata : ∀ d ∈ s.declarations, d.IsData) (text : String) :
    (∃ message context, ofSource file text = .error (.fault ⟨message, some context⟩) ∧
      ofSource file (above ++ "\n" ++ text) = .error (.fault ⟨message, some
        { context with line := context.line + (above.toList.count '\n' + 1 : Nat) }⟩)) ∨
    ∃ t t', ofSource file text = .ok t ∧ ofSource file (above ++ "\n" ++ text) = .ok (s ++ t') ∧
      t.Alike (Location.Below (above.toList.count '\n' + 1)) t' := by
  rw [ofSource, mapError_eq_ok_iff] at h
  obtain ⟨e, e', he, he', hbelow⟩ | ⟨t, t', ht, ht', halike⟩ :=
    Source.schema_append_line h hdata text
  · have htext : text ≠ "" := by
      rintro rfl
      cases (Source.schema_empty file).symm.trans he
    obtain ⟨message, context, hmessage, hmessage'⟩ := hbelow.diagnostic htext file
    refine .inl ⟨message, context, ?_, ?_⟩
    · rw [ofSource, he, Except.mapError, hmessage]
    · rw [ofSource, he', Except.mapError, hmessage']
  · refine .inr ⟨t, t', ?_, ?_, halike⟩
    · rw [ofSource, ht, Except.mapError]
    · rw [ofSource, ht', Except.mapError]

/-! ## Enumerations in front of a source -/

def LoadError.unlocated : LoadError → LoadError
  | fault d => .fault { d with context := none }
  | e => e

def CompilationError.unlocated : CompilationError → CompilationError
  | load e => .load e.unlocated
  | grammar e => .grammar e.unlocated

theorem mapError_grammar (x : Except GrammarError String) :
    (x.mapError CompilationError.grammar).mapError CompilationError.unlocated =
      (x.mapError GrammarError.unlocated).mapError .grammar := by
  cases x <;> rfl

theorem Schema.empty_append (s : Schema) : {} ++ s = s := rfl

theorem Schema.exists_ofSource_of_enumerations {enumText : String} {enums : Schema}
    (h : enumerationsOfSource enumText = .ok enums) (file : Path) :
    ∃ s, ofSource file enumText = .ok s ∧ (∀ d ∈ s.declarations, d.IsData) ∧
      enums.Alike Source.Anywhere s := by
  rw [enumerationsOfSource] at h
  obtain ⟨s, hs, honly⟩ := bind_eq_ok_iff.mp h
  rw [ofSource, mapError_eq_ok_iff] at hs
  rw [enumerationsOnly] at honly
  split_ifs at honly with hall
  cases honly
  have hdata : ∀ d ∈ enums.declarations, d.IsData := fun d hd =>
    Declaration.isData_of_isSome (List.all_eq_true.mp hall d hd)
  obtain ⟨ts, finish, -, -, hlist, -⟩ := Source.schema_eq_ok hs
  obtain ⟨s', hs', halike⟩ := Source.exists_schema_of_allAlike hlist hlist
    (Source.allAlike_of_lexemes_eq rfl) hs hdata file
  refine ⟨s', ?_, halike.isData hdata, halike⟩
  rw [ofSource, hs', Except.mapError]

/-- Enumerations may stand in an extra source, or in front of the source itself. -/
theorem compileSource_append_line {enumText : String} {enums : Schema}
    (h : enumerationsOfSource enumText = .ok enums) (file : Path) (text root : String)
    (lists : ListElements) :
    (compileSource file (enumText ++ "\n" ++ text) none root lists).mapError
        CompilationError.unlocated =
      (compileSource file text (some enumText) root lists).mapError CompilationError.unlocated := by
  obtain ⟨s, hs, hdata, henums⟩ := Schema.exists_ofSource_of_enumerations h file
  obtain ⟨message, context, he, he'⟩ | ⟨t, t', ht, ht', halike⟩ :=
    Schema.ofSource_append_line hs hdata text
  · rw [compileSource_of_error he, compileSource_of_error he']
    rfl
  · have hanywhere : t.Alike Source.Anywhere t' := Schema.Alike.imp halike fun _ _ _ => trivial
    have hwhole := (henums.append hanywhere).grammarText_eq root lists
    have hnone : DeclaresEnumerations none {} := rfl
    have hsome : DeclaresEnumerations (some enumText) enums := h
    rw [compileSource_of_ok ht hsome, compileSource_of_ok ht' hnone, Schema.empty_append,
      mapError_grammar, mapError_grammar, hwhole]

/-- A source of records and enumerations and a source below it are read one after the other; and
with enumerations in front of a source the outcome is that of the source with these as an extra
source, but for the places of errors. -/
theorem source_in_parts :
    (∀ (file : Path) (above text : String) (s : Schema), Schema.ofSource file above = .ok s →
      (∀ d ∈ s.declarations, d.IsData) →
      (∀ t, Schema.ofSource file text = .ok t → ∃ t',
        Schema.ofSource file (above ++ "\n" ++ text) = .ok (s ++ t') ∧
          t.Alike (Location.Below (above.toList.count '\n' + 1)) t') ∧
      ∀ e, Schema.ofSource file text = .error e → ∃ message context,
        e = .fault ⟨message, some context⟩ ∧
          Schema.ofSource file (above ++ "\n" ++ text) = .error (.fault ⟨message, some
            { context with line := context.line + (above.toList.count '\n' + 1 : Nat) }⟩)) ∧
    ∀ (file : Path) (enumText text root : String) (enums : Schema) (lists : ListElements),
      enumerationsOfSource enumText = .ok enums →
        (compileSource file (enumText ++ "\n" ++ text) none root lists).mapError
            CompilationError.unlocated =
          (compileSource file text (some enumText) root lists).mapError
            CompilationError.unlocated := by
  refine ⟨?_, ?_⟩
  · intro file above text s hs hdata
    obtain ⟨message, context, he, he'⟩ | ⟨t, t', ht, ht', halike⟩ :=
      Schema.ofSource_append_line hs hdata text
    · refine ⟨fun t ht => ?_, fun e he₀ => ?_⟩
      · cases he.symm.trans ht
      · cases he.symm.trans he₀
        exact ⟨message, context, rfl, he'⟩
    · refine ⟨fun t₀ ht₀ => ?_, fun e he => ?_⟩
      · cases ht.symm.trans ht₀
        exact ⟨t', ht', halike⟩
      · cases ht.symm.trans he
  · intro file enumText text root enums lists h
    exact compileSource_append_line h file text root lists

open Source

/-- An enumeration on two lines, and after it a comment that ends with the text. -/
def twoLines : String := "enum E \x7b\n  a = 'x' \x7d // */"

def Schema.twoLines : Schema :=
  ⟨[.enumeration ⟨"E", [⟨"a", some "x", none⟩], some (locate sourceFile ⟨1, 1⟩)⟩]⟩

theorem source_below_twoLines :
    (∃ t', Schema.ofSource sourceFile (twoLines ++ "\n" ++ "enum F \x7b\x7d") =
        .ok (Schema.twoLines ++ t') ∧
      Schema.Alike (Location.Below 2)
        ⟨[.enumeration ⟨"F", [], some (locate sourceFile ⟨1, 1⟩)⟩]⟩ t') ∧
    Schema.ofSource sourceFile (twoLines ++ "\n" ++ "\n interface R \x7b e \x7d") =
      .error (.fault ⟨"R.e: missing type annotation",
        some ⟨sourceFile, 4, 18, some " interface R \x7b e \x7d"⟩⟩) ∧
    (compileSource sourceFile (twoLines ++ "\n" ++ "interface R \x7b e: E \x7d") none "R"
        .all).mapError CompilationError.unlocated =
      (compileSource sourceFile "interface R \x7b e: E \x7d" (some twoLines) "R" .all).mapError
        CompilationError.unlocated := by
  have habove : Schema.ofSource sourceFile twoLines = .ok Schema.twoLines := by decide +kernel
  have hdata : ∀ d ∈ Schema.twoLines.declarations, d.IsData := List.forall_mem_singleton.mpr trivial
  have hread : Schema.ofSource sourceFile "enum F \x7b\x7d" =
      .ok ⟨[.enumeration ⟨"F", [], some (locate sourceFile ⟨1, 1⟩)⟩]⟩ := by decide +kernel
  have hfault : Schema.ofSource sourceFile "\n interface R \x7b e \x7d" =
      .error (.fault ⟨"R.e: missing type annotation",
        some ⟨sourceFile, 2, 18, some " interface R \x7b e \x7d"⟩⟩) := by decide +kernel
  have henums : enumerationsOfSource twoLines = .ok Schema.twoLines := by decide +kernel
  refine ⟨?_, ?_, ?_⟩
  · exact (source_in_parts.1 sourceFile twoLines _ _ habove hdata).1 _ hread
  · obtain ⟨message, context, heq, hwhole⟩ :=
      (source_in_parts.1 sourceFile twoLines _ _ habove hdata).2 _ hfault
    cases heq
    exact hwhole
  · exact source_in_parts.2 _ _ _ _ _ _ henums

end SchemaGrammar
