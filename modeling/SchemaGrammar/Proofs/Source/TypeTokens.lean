import SchemaGrammar.Proofs.Source.Reading

/-!
# The grammar of types

A type that is read is one of the types that source can describe, and its spelling is the canonical
one. The tokens it is read from are those of the type, but a bar may stand in front of each type.
-/
namespace SchemaGrammar.Source

/-! ## Tokens of types -/

inductive PathTokens : List Word → List Token → Prop
  | nil : PathTokens [] []
  | cons {dot name word words ts} : dot.kind = .mark .dot → name.kind.isName = true →
      name.value = word.text → PathTokens words ts → PathTokens (word :: words) (dot :: name :: ts)

inductive BracketTokens : Nat → List Token → Prop
  | zero : BracketTokens 0 []
  | succ {opening closing n ts} : opening.kind = .mark .openBracket →
      closing.kind = .mark .closeBracket → BracketTokens n ts →
      BracketTokens (n + 1) (opening :: closing :: ts)

def BarTokens (ts : List Token) : Prop := ts.length ≤ 1 ∧ ∀ t ∈ ts, t.kind = .mark .bar

mutual

inductive AtomTokens : TypeAtom → List Token → Prop
  | mk {head path arguments brackets name ts ts' ts''} : name.kind.isName = true →
      name.value = head.text → PathTokens path ts → ArgumentTokens arguments ts' →
      BracketTokens brackets ts'' →
      AtomTokens (.mk head path arguments brackets) (name :: (ts ++ (ts' ++ ts'')))

inductive UnionTokens : TypeUnion → List Token → Prop
  | mk {first others bar ts ts'} : BarTokens bar → AtomTokens first ts →
      AlternativeTokens others ts' → UnionTokens (.mk first others) (bar ++ (ts ++ ts'))

inductive AlternativeTokens : List TypeAtom → List Token → Prop
  | nil : AlternativeTokens [] []
  | cons {bar a as ts ts'} : bar.kind = .mark .bar → AtomTokens a ts → AlternativeTokens as ts' →
      AlternativeTokens (a :: as) (bar :: (ts ++ ts'))

inductive ArgumentTokens : List TypeUnion → List Token → Prop
  | nil : ArgumentTokens [] []
  | cons {opening closing u us ts ts'} : opening.kind = .mark .openAngle → UnionTokens u ts →
      FurtherTokens us ts' → closing.kind = .mark .closeAngle →
      ArgumentTokens (u :: us) (opening :: (ts ++ (ts' ++ [closing])))

inductive FurtherTokens : List TypeUnion → List Token → Prop
  | nil : FurtherTokens [] []
  | cons {comma u us ts ts'} : comma.kind = .mark .comma → UnionTokens u ts →
      FurtherTokens us ts' → FurtherTokens (u :: us) (comma :: (ts ++ ts'))

end

/-! ## What reading a type takes -/

theorem Named.append {ts ts' : List Token} (h : Named (ts ++ ts')) : Named ts ∧ Named ts' :=
  List.forall_mem_append.mp h

theorem Named.tail {t : Token} {ts : List Token} (h : Named (t :: ts)) : Named ts :=
  (List.forall_mem_cons.mp h).2

theorem takes_path (spelling : String) (ts : List Token) :
    (dottedNames spelling ts).Takes ts fun taken s => Named taken → ∃ path : List Word,
      s = spelling ++ String.join (path.map ("." ++ ·.text)) ∧ PathTokens path taken := by
  cases ts with
  | nil =>
    rw [dottedNames]
    exact .read [] fun _ => ⟨[], by simp, .nil⟩
  | cons t r =>
    rw [dottedNames]
    refine .ite (fun hdot => .cons ?_) fun _ => .read [] fun _ => ⟨[], by simp, .nil⟩
    refine (takes_takeName r).andThen fun taken name r₁ h₁ hname => ?_
    obtain ⟨rfl, hname⟩ := hname
    refine ((takes_path _ r₁).imp fun more s hs hnamed => ?_).weaken
    obtain ⟨hfirst, hnamed⟩ := List.forall_mem_cons.mp hnamed.tail
    obtain ⟨path, rfl, hpath⟩ := hs hnamed
    exact ⟨⟨name.value, hfirst hname⟩ :: path, by simp [String.append_assoc],
      .cons hdot hname rfl hpath⟩
termination_by ts.length
decreasing_by simp; omega

theorem takes_brackets (spelling : String) (ts : List Token) :
    (arrayMarks spelling ts).Takes ts fun taken s => ∃ brackets,
      s = spelling ++ String.join (List.replicate brackets "[]") ∧
        BracketTokens brackets taken := by
  cases ts with
  | nil =>
    rw [arrayMarks]
    exact .read [] ⟨0, by simp, .zero⟩
  | cons t r =>
    rw [arrayMarks]
    refine .ite (fun hopening => .cons ?_) fun _ => .read [] ⟨0, by simp, .zero⟩
    refine (takes_takeKind _ r).andThen fun taken closing r₁ h₁ hclosing => ?_
    obtain ⟨rfl, hclosing⟩ := hclosing
    refine ((takes_brackets _ r₁).imp fun more s hs => ?_).weaken
    obtain ⟨brackets, rfl, hbrackets⟩ := hs
    exact ⟨brackets + 1, by simp [List.replicate_succ, String.append_assoc],
      .succ hopening hclosing hbrackets⟩
termination_by ts.length
decreasing_by simp; omega

theorem exists_skipBar (ts : List Token) : ∃ bar, ts = bar ++ skipBar ts ∧ BarTokens bar := by
  cases ts with
  | nil => exact ⟨[], rfl, Nat.zero_le _, List.forall_mem_nil _⟩
  | cons t r =>
    rw [skipBar]
    split_ifs with hbar
    · exact ⟨[t], rfl, Nat.le_refl _, List.forall_mem_singleton.mpr hbar⟩
    · exact ⟨[], rfl, Nat.zero_le _, List.forall_mem_nil _⟩

mutual

theorem takes_union (owner : String) (ts : List Token) :
    (typeExpr owner ts).Takes ts fun taken t => Named taken → ∃ u : TypeUnion,
      t = u.typeExpr ∧ UnionTokens u taken := by
  rw [typeExpr]
  obtain ⟨bar, hskip, hbar⟩ := exists_skipBar ts
  refine .of_append hskip ((takes_atom owner _).andThen fun taken first r₁ h₁ hfirst => ?_)
  refine (takes_alternatives owner r₁).andThen fun taken' others r₂ h₂ hothers => ?_
  refine .ite (fun _ => .fault) fun _ => .read [] fun hnamed => ?_
  rw [List.append_nil] at hnamed ⊢
  obtain ⟨hnamed, hnamed'⟩ := hnamed.append.2.append
  obtain ⟨a, rfl, ha⟩ := hfirst hnamed
  obtain ⟨as, rfl, has⟩ := hothers hnamed'
  exact ⟨.mk a as, rfl, .mk hbar ha has⟩
termination_by 3 * ts.length + 2
decreasing_by
  · have := length_skipBar_le ts
    omega
  · have := length_skipBar_le ts
    omega

theorem takes_alternatives (owner : String) (ts : List Token) :
    (alternatives owner ts).Takes ts fun taken texts => Named taken → ∃ as : List TypeAtom,
      texts = TypeAtom.texts as ∧ AlternativeTokens as taken := by
  cases ts with
  | nil =>
    rw [alternatives]
    exact .read [] fun _ => ⟨[], rfl, .nil⟩
  | cons t r =>
    rw [alternatives]
    refine .ite (fun hbar => .cons ?_) fun _ => .read [] fun _ => ⟨[], rfl, .nil⟩
    refine (takes_atom owner r).andThen fun taken spelling r₁ h₁ hspelling => ?_
    refine (takes_alternatives owner r₁).andThen fun taken' spellings r₂ h₂ hspellings => ?_
    refine .read [] fun hnamed => ?_
    rw [List.append_nil] at hnamed ⊢
    obtain ⟨hnamed, hnamed'⟩ := hnamed.tail.append
    obtain ⟨a, rfl, ha⟩ := hspelling hnamed
    obtain ⟨as, rfl, has⟩ := hspellings hnamed'
    exact ⟨a :: as, rfl, .cons hbar ha has⟩
termination_by 3 * ts.length
decreasing_by
  · simp
    omega
  · simp
    omega

theorem takes_atom (owner : String) (ts : List Token) :
    (typeAtom owner ts).Takes ts fun taken s => Named taken → ∃ a : TypeAtom,
      s = a.text ∧ AtomTokens a taken := by
  rw [typeAtom]
  cases refusedType? owner (headKind ts) with
  | some cause => exact .fault
  | none =>
    refine (takes_takeName ts).andThen fun taken name r₁ h₁ hname => ?_
    obtain ⟨rfl, hname⟩ := hname
    refine (takes_path _ r₁).andThen fun taken₁ spelling r₂ h₂ hs₁ => ?_
    refine (takes_arguments owner spelling r₂).andThen fun taken₂ spelling' r₃ h₃ hs₂ => ?_
    refine ((takes_brackets spelling' r₃).imp fun taken₃ s hs₃ hnamed => ?_).weaken
    obtain ⟨hfirst, hnamed⟩ := hnamed.append
    obtain ⟨hnamed₁, hnamed⟩ := hnamed.append
    obtain ⟨path, rfl, hpath⟩ := hs₁ hnamed₁
    obtain ⟨arguments, rfl, harguments⟩ := hs₂ hnamed.append.1
    obtain ⟨brackets, rfl, hbrackets⟩ := hs₃
    have hfirst := hfirst name List.mem_cons_self hname
    refine ⟨.mk ⟨name.value, hfirst⟩ path arguments brackets, by rw [TypeAtom.text], ?_⟩
    rw [List.singleton_append]
    exact .mk hname rfl hpath harguments hbrackets
termination_by 3 * ts.length + 1
decreasing_by omega

theorem takes_arguments (owner spelling : String) (ts : List Token) :
    (typeArguments owner spelling ts).Takes ts fun taken s => Named taken →
      ∃ us : List TypeUnion, s = spelling ++ argumentsText (TypeUnion.texts us) ∧
        ArgumentTokens us taken := by
  cases ts with
  | nil =>
    rw [typeArguments]
    exact .read [] fun _ => ⟨[], String.append_empty.symm, .nil⟩
  | cons t r =>
    rw [typeArguments]
    refine .ite (fun hopening => .cons ?_) fun _ =>
      .read [] fun _ => ⟨[], String.append_empty.symm, .nil⟩
    refine (takes_union owner r).andThen fun taken first r₁ h₁ hfirst => ?_
    refine (takes_further owner r₁).andThen fun taken' others r₂ h₂ hothers => ?_
    refine (takes_takeKind _ r₂).andThen fun taken'' closing r₃ h₃ hclosing => ?_
    obtain ⟨rfl, hclosing⟩ := hclosing
    refine .read [] fun hnamed => ?_
    rw [List.append_nil] at hnamed ⊢
    obtain ⟨hnamed, hnamed'⟩ := hnamed.tail.append
    obtain ⟨u, rfl, hu⟩ := hfirst hnamed
    obtain ⟨us, rfl, hus⟩ := hothers hnamed'.append.1
    refine ⟨u :: us, ?_, .cons hopening hu hus hclosing⟩
    rw [TypeUnion.text_typeExpr, TypeUnion.texts, argumentsText, String.append_assoc,
      String.append_assoc, String.append_assoc]
termination_by 3 * ts.length
decreasing_by
  · simp
    omega
  · simp
    omega

theorem takes_further (owner : String) (ts : List Token) :
    (moreArguments owner ts).Takes ts fun taken texts => Named taken → ∃ us : List TypeUnion,
      texts = TypeUnion.texts us ∧ FurtherTokens us taken := by
  cases ts with
  | nil =>
    rw [moreArguments]
    exact .read [] fun _ => ⟨[], rfl, .nil⟩
  | cons t r =>
    rw [moreArguments]
    refine .ite (fun hcomma => .cons ?_) fun _ => .read [] fun _ => ⟨[], rfl, .nil⟩
    refine (takes_union owner r).andThen fun taken type r₁ h₁ htype => ?_
    refine (takes_further owner r₁).andThen fun taken' types r₂ h₂ htypes => ?_
    refine .read [] fun hnamed => ?_
    rw [List.append_nil] at hnamed ⊢
    obtain ⟨hnamed, hnamed'⟩ := hnamed.tail.append
    obtain ⟨u, rfl, hu⟩ := htype hnamed
    obtain ⟨us, rfl, hus⟩ := htypes hnamed'
    exact ⟨u :: us, by rw [TypeUnion.text_typeExpr, TypeUnion.texts], .cons hcomma hu hus⟩
termination_by 3 * ts.length
decreasing_by
  · simp
    omega
  · simp
    omega

end

/-- A type that is read is one that source can describe, and was read from its tokens. -/
theorem Part.Gives.exists_union {owner : String} {t : TypeExpr} {ts rest : List Token}
    (h : (typeExpr owner ts).Gives t rest) (hts : Named ts) :
    ∃ (u : TypeUnion) (taken : List Token),
      ts = taken ++ rest ∧ t = u.typeExpr ∧ UnionTokens u taken := by
  obtain ⟨le, hread⟩ := h
  obtain ⟨taken, rfl, htaken⟩ := takes_union owner ts _ _ _ hread
  obtain ⟨u, hu, htokens⟩ := htaken hts.append.1
  exact ⟨u, taken, rfl, hu, htokens⟩

theorem Part.Gives.exists_atom {owner spelling : String} {ts rest : List Token}
    (h : (typeAtom owner ts).Gives spelling rest) (hts : Named ts) :
    ∃ (a : TypeAtom) (taken : List Token), ts = taken ++ rest ∧ spelling = a.text ∧
      AtomTokens a taken := by
  obtain ⟨le, hread⟩ := h
  obtain ⟨taken, rfl, htaken⟩ := takes_atom owner ts _ _ _ hread
  obtain ⟨a, ha, htokens⟩ := htaken hts.append.1
  exact ⟨a, taken, rfl, ha, htokens⟩

end SchemaGrammar.Source
