import SchemaGrammar.Proofs.Source.Brackets
import SchemaGrammar.Source.Declarations

/-!
# Passing over declarations

A declaration that is passed over ends with the first semicolon outside brackets, or with its body.
An opening brace outside brackets begins the body unless a colon, a bar or an ampersand is in front
of it. Whatever follows is read as if nothing stood before it.
-/
namespace SchemaGrammar.Source

/-- No token outside brackets ends or begins a declaration; one that could begin one may stand on
the line of the keyword. -/
def GoesOn (line : Nat) (ts : List Token) : Prop :=
  ∀ before t, Outside braces ts before t → t.kind ≠ .mark .semicolon ∧
    ¬ (beginsDeclaration t.kind = true ∧ line < t.position.line)

def BeforeObjectType (ts : List Token) : Prop :=
  ts.getLast?.any (fun t => beginsObjectType t.kind) = true

instance : DecidablePred BeforeObjectType := fun _ => inferInstanceAs (Decidable (_ = true))

/-- The tokens behind the keyword of a declaration, up to its end: a semicolon, or a body. -/
inductive PassedTokens (line : Nat) : (body : Bool) → List Token → Prop
  | semicolon {inner semicolon} : Bracketed braces inner → GoesOn line inner →
      semicolon.kind = .mark .semicolon → PassedTokens line false (inner ++ [semicolon])
  | body {head opening inner closing} : Bracketed braces head → GoesOn line head →
      (∀ before t, Outside braces head before t → t.kind = .mark .openBrace →
        BeforeObjectType before) →
      ¬ BeforeObjectType head → opening.kind = .mark .openBrace → Bracketed braces inner →
      closing.kind = .mark .closeBrace →
      PassedTokens line true (head ++ opening :: (inner ++ [closing]))

/-! ## The token before -/

/-- The kind of the last token, or of the one in front if there is none. -/
def lastKind? (previous : Option TokenKind) (ts : List Token) : Option TokenKind :=
  (ts.getLast?.map Token.kind).or previous

@[simp] theorem lastKind?_cons (previous : Option TokenKind) (t : Token) (ts : List Token) :
    lastKind? previous (t :: ts) = lastKind? (some t.kind) ts := by
  cases h : ts.getLast? <;> simp [lastKind?, List.getLast?_cons, h]

@[simp] theorem lastKind?_append (previous : Option TokenKind) (ts ts' : List Token) :
    lastKind? previous (ts ++ ts') = lastKind? (lastKind? previous ts) ts' := by
  induction ts generalizing previous with
  | nil => rfl
  | cons t ts ih => simp [ih]

theorem beforeObjectType_iff (ts : List Token) :
    BeforeObjectType ts ↔ (lastKind? none ts).any beginsObjectType = true := by
  cases h : ts.getLast? <;> simp [BeforeObjectType, lastKind?, h]

/-! ## Steps -/

section Steps

variable {body flag : Bool} {line : Nat} {depth : Int} {previous : Option TokenKind}
  {t : Token} {m m' : Mark}

theorem passOver_inside (hdepth : 0 < depth) (hafter : 0 < depthAfter depth t.kind)
    (r : List Token) : passOver body line ⟨depth, previous, flag⟩ (t :: r) =
      passOver body line ⟨depthAfter depth t.kind, some t.kind, flag⟩ r := by
  have hdepth : depth ≠ 0 := by omega
  have hafter : depthAfter depth t.kind ≠ 0 := by omega
  simp [passOver, hdepth, hafter]

theorem passOver_token (ht : isBracket braces t.kind = false)
    (hgoes : t.kind ≠ .mark .semicolon ∧
      ¬ (beginsDeclaration t.kind = true ∧ line < t.position.line)) (r : List Token) :
    passOver body line ⟨0, previous, flag⟩ (t :: r) =
      passOver body line ⟨0, some t.kind, flag⟩ r := by
  have hopen : t.kind ≠ .mark .openBrace := ne_mark_of_isBracket ht (by decide)
  have hclose : t.kind ≠ .mark .closeBrace := ne_mark_of_isBracket ht (by decide)
  simp [passOver, depthAfter_token ht, hgoes.1, hopen, hclose, -not_and, hgoes.2]

theorem passOver_opening (hm : m ∈ braces) (ht : t.kind = .mark m) (r : List Token) :
    passOver body line ⟨0, previous, flag⟩ (t :: r) =
      passOver body line ⟨1, some t.kind,
        if m = .openBrace then previous.any beginsObjectType else flag⟩ r := by
  have hnone : ∀ m ∈ braces, m ≠ .semicolon ∧ beginsDeclaration (.mark m) = false := by decide
  have hafter := depthAfter_opening hm 0
  simp [passOver, ht, hnone m hm, hafter]

theorem passOver_closing (hm : m ∈ braces) (hm' : m.partner? = some m') (ht : t.kind = .mark m')
    (r : List Token) : passOver body line ⟨1, previous, flag⟩ (t :: r) =
      if m = .openBrace ∧ body = true then
        if flag = true then passOver body line ⟨0, some t.kind, false⟩ r else r
      else passOver body line ⟨0, some t.kind, flag⟩ r := by
  have hbrace : m' = .closeBrace ↔ m = .openBrace := by
    cases m <;> cases hm' <;> decide
  have hafter := depthAfter_closing hm hm' 0
  rw [Int.zero_add] at hafter
  simp [passOver, ht, hafter, hbrace]

/-- Bracketed tokens inside brackets leave all but the token before as it was. -/
theorem passOver_bracketed {ts : List Token} (h : Bracketed braces ts) (hdepth : 0 < depth)
    (rest : List Token) : passOver body line ⟨depth, previous, flag⟩ (ts ++ rest) =
      passOver body line ⟨depth, lastKind? previous ts, flag⟩ rest := by
  induction h generalizing depth previous rest with
  | nil => rfl
  | @token t ts ht _ ih =>
    have hafter := depthAfter_token ht depth
    rw [List.cons_append, passOver_inside hdepth (by omega), hafter, ih hdepth, lastKind?_cons]
  | @group m m' opening closing ts inner hm hm' hopening hclosing _ _ ihinner ihts =>
    have hopen : depthAfter depth opening.kind = depth + 1 := by
      rw [hopening, depthAfter_opening hm]
    have hclose : depthAfter (depth + 1) closing.kind = depth := by
      rw [hclosing, depthAfter_closing hm hm']
    rw [List.cons_append, passOver_inside hdepth (by omega), hopen, List.append_assoc,
      ihinner (by omega), List.cons_append, passOver_inside (by omega) (by omega), hclose,
      ihts hdepth]
    simp

/-- Outside brackets bracketed tokens are passed over if none of them ends the declaration. -/
theorem exists_passOver_eq {ts : List Token} (h : Bracketed braces ts) (hgoes : GoesOn line ts)
    (hbraces : body = true → ∀ before t, Outside braces ts before t → t.kind = .mark .openBrace →
      (lastKind? previous before).any beginsObjectType = true) (rest : List Token) :
    ∃ flag', passOver body line ⟨0, previous, flag⟩ (ts ++ rest) =
      passOver body line ⟨0, lastKind? previous ts, flag'⟩ rest := by
  induction h generalizing previous flag with
  | nil => exact ⟨flag, rfl⟩
  | @token t ts ht _ ih =>
    rw [List.cons_append, passOver_token ht (hgoes [] t .head), lastKind?_cons]
    apply ih
    · intro before x hx
      exact hgoes _ x (hx.token ht)
    · intro hbody before x hx hkind
      simpa using hbraces hbody _ x (hx.token ht) hkind
  | @group m m' opening closing ts inner hm hm' hopening hclosing hinner _ _ ihts =>
    have hbehind (flag' : Bool) : ∃ flag'',
        passOver body line ⟨0, some closing.kind, flag'⟩ (ts ++ rest) =
          passOver body line ⟨0, lastKind? (some closing.kind) ts, flag''⟩ rest := by
      apply ihts
      · intro before x hx
        exact hgoes _ x (hx.group hm hm' hopening hclosing hinner)
      · intro hbody before x hx hkind
        simpa using hbraces hbody _ x (hx.group hm hm' hopening hclosing hinner) hkind
    rw [List.cons_append, passOver_opening hm hopening, List.append_assoc,
      passOver_bracketed hinner (by omega), List.cons_append, passOver_closing hm hm' hclosing]
    simp only [lastKind?_cons, lastKind?_append]
    by_cases hbody : m = .openBrace ∧ body = true
    · -- a brace that begins the body would end the declaration
      have hobject : previous.any beginsObjectType = true :=
        hbraces hbody.2 [] opening .head (by rw [hopening, hbody.1])
      rw [if_pos hbody, if_pos hbody.1, if_pos hobject]
      exact hbehind _
    · rw [if_neg hbody]
      exact hbehind _

theorem passOver_body {opening closing : Token} {inner : List Token}
    (hopening : opening.kind = .mark .openBrace) (hinner : Bracketed braces inner)
    (hclosing : closing.kind = .mark .closeBrace)
    (hprevious : previous.any beginsObjectType = false) (rest : List Token) :
    passOver true line ⟨0, previous, flag⟩ (opening :: (inner ++ closing :: rest)) = rest := by
  have hmem : Mark.openBrace ∈ braces := by decide
  rw [passOver_opening hmem hopening, passOver_bracketed hinner (by omega),
    passOver_closing hmem rfl hclosing]
  simp [hprevious]

end Steps

/-! ## Whole declarations -/

variable {line : Nat} {body : Bool} {ts : List Token}

theorem PassedTokens.passOver_eq (h : PassedTokens line body ts) (rest : List Token) :
    passOver body line ⟨0, none, false⟩ (ts ++ rest) = rest := by
  cases h with
  | @semicolon inner semicolon hinner hgoes hkind =>
    obtain ⟨flag, heq⟩ := @exists_passOver_eq false false line none inner hinner hgoes (by simp)
      (semicolon :: rest)
    rw [List.append_assoc, List.singleton_append, heq]
    simp [passOver, hkind]
  | @body head opening inner closing hhead hgoes hbraces hbefore hopening hinner hclosing =>
    obtain ⟨flag, heq⟩ := @exists_passOver_eq true false line none head hhead hgoes
      (fun _ before t ht hkind => (beforeObjectType_iff _).mp (hbraces before t ht hkind))
      (opening :: (inner ++ closing :: rest))
    have hprevious : (lastKind? none head).any beginsObjectType = false := by
      rwa [beforeObjectType_iff, Bool.not_eq_true] at hbefore
    have hassoc : head ++ opening :: (inner ++ [closing]) ++ rest =
        head ++ opening :: (inner ++ closing :: rest) := by simp
    rw [hassoc, heq, passOver_body hopening hinner hclosing hprevious]

theorem PassedTokens.headIdentifier?_append (h : PassedTokens line body ts) (rest : List Token) :
    headIdentifier? (ts ++ rest) = headIdentifier? ts := by
  cases ts with
  | nil =>
    generalize hts : ([] : List Token) = ts at h
    cases h <;> simp at hts
  | cons t ts => rfl

/-- A declaration that is passed over begins with no modifier and no interface or enumeration. -/
theorem kind_not_mem_of_otherKind? {kind : TokenKind} {name : String}
    (h : otherKind? kind = some name) : kind ≠ .mark .semicolon ∧ kind ∉ modifiers ∧
      kind ≠ .keyword .interfaceWord ∧ kind ≠ .keyword .enumWord := by
  cases kind with
  | keyword word => cases word <;> cases h <;> decide
  | _ => cases h

theorem skipKinds_modifiers {words : List Token} (hwords : ∀ t ∈ words, t.kind ∈ modifiers)
    {keyword : Token} (hkeyword : keyword.kind ∉ modifiers) (after : List Token) :
    skipKinds modifiers (words ++ keyword :: after) = keyword :: after := by
  have hall : ∀ t ∈ words, modifiers.contains t.kind = true := by simpa using hwords
  rw [skipKinds, List.dropWhile_append_of_pos hall, List.dropWhile_cons_of_neg (by simpa)]

/-- A declaration is read first, and then those behind it. -/
theorem declarations_of_declaration {file : Path} {first : Token} {r rest : List Token}
    {d : Declaration} (hfirst : first.kind ≠ .mark .semicolon)
    (hd : (declaration file (first :: r)).Gives d rest) :
    (declarations file (first :: r)).outcome = (declarations file rest).outcome.map (d :: ·) ∧
      (declarations file (first :: r)).rest = (declarations file rest).rest := by
  have hfront : skipKinds [.mark .semicolon] (first :: r) = first :: r := by
    rw [skipKinds, List.dropWhile_cons_of_neg (by simpa using hfirst)]
  obtain ⟨le, heq⟩ := hd
  rw [declarations_of_cons file hfront (Nat.le_refl _), heq]
  cases hrest : declarations file rest with
  | read ds r le => simp [Part.andThen, Part.outcome, Part.rest, hrest, Except.map]
  | fault cause r => simp [Part.andThen, Part.outcome, Part.rest, hrest, Except.map]

/-- The declaration that `keyword` begins, `words` in front of it, is read first, and then those
behind its tokens `ts`. -/
theorem declarations_of_otherDeclaration (file : Path) {words after rest : List Token}
    (hwords : ∀ t ∈ words, t.kind ∈ modifiers) {keyword : Token} {kind : String}
    (hkind : otherKind? keyword.kind = some kind)
    (henum : ¬ (keyword.kind = .keyword .constWord ∧ headKind after = .keyword .enumWord))
    {o : OtherDeclaration}
    (ho : (otherDeclaration file (words.head?.getD keyword).position kind keyword after).Gives o
      rest) :
    (declarations file (words ++ keyword :: after)).outcome =
        (declarations file rest).outcome.map (.other o :: ·) ∧
      (declarations file (words ++ keyword :: after)).rest = (declarations file rest).rest := by
  obtain ⟨hsemicolon, hmodifier, hinterface, henumeration⟩ := kind_not_mem_of_otherKind? hkind
  have hdeclaration {first : Token} {r : List Token}
      (hfirst : words ++ keyword :: after = first :: r)
      (hposition : first = words.head?.getD keyword) :
      (declaration file (first :: r)).Gives (.other o) rest := by
    have hskip := skipKinds_modifiers hwords hmodifier after
    have hlength : after.length ≤ (first :: r).length - 1 := by
      rw [← hfirst]
      simp
    rw [hfirst] at hskip
    rw [← hposition] at ho
    rw [declaration_of_cons file hskip hlength, if_neg hinterface, if_neg henumeration,
      if_neg (by simpa using henum), hkind]
    exact (ho.map _).weaken
  cases words with
  | nil => exact declarations_of_declaration hsemicolon (hdeclaration rfl rfl)
  | cons w ws =>
    have hw : w.kind ≠ .mark .semicolon := by
      intro hw
      have hmem := hwords w List.mem_cons_self
      rw [hw] at hmem
      exact absurd hmem (by decide)
    exact declarations_of_declaration hw (hdeclaration rfl rfl)

/-- A declaration that is passed over takes just its own tokens. It is one declaration of the list,
and all that follows is read as if it stood alone. -/
theorem other_declaration_takes_its_tokens (file : Path) {keyword : Token} {kind : String}
    (hkind : otherKind? keyword.kind = some kind) {after ts rest : List Token}
    (hafter : skipClassWord keyword after = ts ++ rest)
    (hts : PassedTokens keyword.position.line (endsWithBody kind) ts) :
    (∀ start, (otherDeclaration file start kind keyword after).Gives
      ⟨kind, headIdentifier? ts, some (locate file start)⟩ rest) ∧
    ∀ words, (∀ t ∈ words, t.kind ∈ modifiers) →
      ¬ (keyword.kind = .keyword .constWord ∧ headKind after = .keyword .enumWord) →
      (declarations file (words ++ keyword :: after)).outcome =
          (declarations file rest).outcome.map (.other ⟨kind, headIdentifier? ts,
            some (locate file (words.head?.getD keyword).position)⟩ :: ·) ∧
        (declarations file (words ++ keyword :: after)).rest = (declarations file rest).rest := by
  have hgives (start : Position) : (otherDeclaration file start kind keyword after).Gives
      ⟨kind, headIdentifier? ts, some (locate file start)⟩ rest := by
    unfold otherDeclaration
    simp only [hafter, hts.passOver_eq, hts.headIdentifier?_append]
    exact .read
  refine ⟨hgives, ?_⟩
  intro words hwords henum
  exact declarations_of_otherDeclaration file hwords hkind henum (hgives _)

def functionHead : List Token :=
  [⟨.identifier, "f", .start⟩, ⟨.mark .openParen, "(", .start⟩, ⟨.mark .closeParen, ")", .start⟩,
    ⟨.mark .colon, ":", .start⟩, ⟨.mark .openBrace, "\x7b", .start⟩, ⟨.identifier, "a", .start⟩,
    ⟨.mark .closeBrace, "\x7d", .start⟩]

theorem bracketed_functionHead : Bracketed braces functionHead := by
  refine .token rfl (.group [] (m := .openParen) (by decide) rfl rfl rfl .nil ?_)
  refine .token rfl (.group [_] (m := .openBrace) (by decide) rfl rfl rfl ?_ .nil)
  exact .token rfl .nil

/-- The tokens of a function whose type holds braces and whose body holds a semicolon. -/
def functionTokens : List Token :=
  functionHead ++ ⟨.mark .openBrace, "\x7b", .start⟩ ::
    ([⟨.mark .semicolon, ";", .start⟩] ++ [⟨.mark .closeBrace, "\x7d", .start⟩])

theorem passedTokens_functionTokens : PassedTokens 1 true functionTokens := by
  refine .body bracketed_functionHead ?_ ?_ (by decide) rfl (.token rfl .nil) rfl
  · intro before t ht
    exact ht.of_forall (P := fun _ t => t.kind ≠ .mark .semicolon ∧
      ¬ (beginsDeclaration t.kind = true ∧ 1 < t.position.line)) (by decide)
  · intro before t ht
    exact ht.of_forall (P := fun before t => t.kind = .mark .openBrace → BeforeObjectType before)
      (by decide)

def emptyEnumeration : List Token :=
  [⟨.keyword .enumWord, "enum", .start⟩, ⟨.identifier, "E", .start⟩,
    ⟨.mark .openBrace, "\x7b", .start⟩, ⟨.mark .closeBrace, "\x7d", .start⟩]

theorem exported_function_takes_its_tokens :
    let file : Path := .ofString "a"
    let keyword : Token := ⟨.keyword .functionWord, "function", .start⟩
    let exported : Token := ⟨.keyword .exportWord, "export", .start⟩
    PassedTokens 1 true functionTokens ∧
      (otherDeclaration file .start "function" keyword (functionTokens ++ emptyEnumeration)).Gives
        ⟨"function", some "f", some (locate file .start)⟩ emptyEnumeration ∧
      (declarations file ([exported] ++ keyword :: (functionTokens ++ emptyEnumeration))).outcome =
        (declarations file emptyEnumeration).outcome.map
          (.other ⟨"function", some "f", some (locate file .start)⟩ :: ·) := by
  intro file keyword exported
  have hkind : otherKind? keyword.kind = some "function" := rfl
  have hafter : skipClassWord keyword (functionTokens ++ emptyEnumeration) =
      functionTokens ++ emptyEnumeration := rfl
  obtain ⟨hgives, hdeclarations⟩ :=
    other_declaration_takes_its_tokens file hkind hafter passedTokens_functionTokens
  have hread := hdeclarations [exported] (by decide) (by decide)
  exact ⟨passedTokens_functionTokens, hgives .start, hread.1⟩

end SchemaGrammar.Source
