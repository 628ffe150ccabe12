import Mathlib.Data.List.Forall2
import SchemaGrammar.Proofs.Source.Brackets
import SchemaGrammar.Proofs.Source.Enumerations

/-!
# Values and initializers of members

Behind the equals sign of a member there may be any bracketed tokens with no comma outside their
brackets. One string alone is the value of the member and anything else is kept as an initializer;
the member ends where the tokens do.
-/
namespace SchemaGrammar.Source

structure InitializerTokens where
  equals : Token
  tokens : List Token
  equals_kind : equals.kind = .mark .equals
  bracketed : Bracketed braces tokens
  kind_ne_comma : ∀ before t, Outside braces tokens before t → t.kind ≠ .mark .comma

structure MemberTokens where
  name : Token
  isMemberName : IsMemberName name.kind
  initializer : Option InitializerTokens

namespace MemberTokens

def ending (m : MemberTokens) : List Token :=
  match m.initializer with
  | none => []
  | some i => i.equals :: i.tokens

def tokens (m : MemberTokens) : List Token := m.name :: m.ending

def IsString (m : MemberTokens) (value : String) : Prop :=
  ∃ i t, m.initializer = some i ∧ i.tokens = [t] ∧ t.kind = .string ∧ t.value = value

/-- What is to be read from the tokens of a member. -/
structure ReadAs (m : MemberTokens) (member : Member) : Prop where
  name : member.name = m.name.value
  value : ∀ value, member.value = some value ↔ m.IsString value
  initializer : member.initializer = none ↔ m.initializer = none ∨ ∃ value, m.IsString value
  text : ∀ i ∈ m.initializer, ∀ text ∈ member.initializer,
    text = " ".intercalate (i.tokens.map Token.value)

end MemberTokens

/-- Tokens of members with commas between them, and perhaps one behind the last. -/
inductive MemberList : List MemberTokens → List Token → Prop
  | nil : MemberList [] []
  | last {m} : MemberList [m] m.tokens
  | cons {m comma ms ts} : comma.kind = .mark .comma → MemberList ms ts →
      MemberList (m :: ms) (m.tokens ++ comma :: ts)

/-! ## Initializers -/

theorem gives_initializerParts_cons {depth : Int} {t : Token} {r rest : List Token}
    {values : List String}
    (ht : depth = 0 → t.kind ≠ .mark .comma ∧ t.kind ≠ .mark .closeBrace)
    (h : (initializerParts (depthAfter depth t.kind) r).Gives values rest) :
    (initializerParts depth (t :: r)).Gives (t.value :: values) rest := by
  have hstop : ¬ (decide (depth = 0) &&
      (decide (t.kind = .mark .comma) || decide (t.kind = .mark .closeBrace))) = true := by
    simpa using ht
  rw [initializerParts, if_neg hstop]
  exact (h.map _).weaken

theorem gives_initializerParts_opening {depth : Int} {m : Mark} {t : Token} {r rest : List Token}
    {values : List String} (hm : m ∈ braces) (ht : t.kind = .mark m)
    (h : (initializerParts (depth + 1) r).Gives values rest) :
    (initializerParts depth (t :: r)).Gives (t.value :: values) rest := by
  have hkind : ∀ m ∈ braces, TokenKind.mark m ≠ .mark .comma ∧
      TokenKind.mark m ≠ .mark .closeBrace := by decide
  apply gives_initializerParts_cons
  · intro _
    rw [ht]
    exact hkind m hm
  · rwa [ht, depthAfter_opening hm]

theorem gives_initializerParts_closing {depth : Int} {m m' : Mark} {t : Token}
    {r rest : List Token} {values : List String} (hdepth : 0 ≤ depth) (hm : m ∈ braces)
    (hm' : m' ∈ m.partner?) (ht : t.kind = .mark m')
    (h : (initializerParts depth r).Gives values rest) :
    (initializerParts (depth + 1) (t :: r)).Gives (t.value :: values) rest := by
  apply gives_initializerParts_cons
  · omega
  · rwa [ht, depthAfter_closing hm hm']

/-- Bracketed tokens are read through: inside brackets whatever they are, outside if no comma is
there. -/
theorem gives_initializerParts {ts : List Token} (h : Bracketed braces ts) {depth : Int}
    (hdepth : 0 ≤ depth)
    (hcomma : depth = 0 → ∀ before t, Outside braces ts before t → t.kind ≠ .mark .comma)
    {values : List String} {rest rest' : List Token}
    (hrest : (initializerParts depth rest).Gives values rest') :
    (initializerParts depth (ts ++ rest)).Gives (ts.map Token.value ++ values) rest' := by
  induction h generalizing depth values rest with
  | nil => exact hrest
  | @token t ts ht _ ih =>
    apply gives_initializerParts_cons
    · intro hzero
      exact ⟨hcomma hzero [] t .head, ne_mark_of_isBracket ht (by decide)⟩
    · rw [depthAfter_token ht]
      apply ih hdepth _ hrest
      intro hzero before x hx
      exact hcomma hzero _ x (hx.token ht)
  | @group m m' opening closing ts inner hm hm' hopening hclosing hinner _ ihinner ihts =>
    have hbehind := ihts hdepth (fun hzero before x hx =>
      hcomma hzero _ x (hx.group hm hm' hopening hclosing hinner)) hrest
    have hclose := gives_initializerParts_closing hdepth hm hm' hclosing hbehind
    have hinside := ihinner (Int.le_add_one hdepth) (by omega) hclose
    have hopen := gives_initializerParts_opening hm hopening hinside
    have heq : opening :: (inner ++ closing :: ts) ++ rest =
        opening :: (inner ++ closing :: (ts ++ rest)) := by simp
    rw [heq]
    simpa using hopen

/-- Only a single string is taken for a value. -/
theorem loneString?_eq_none (i : InitializerTokens) {rest : List Token}
    (hrest : Member.Ends (headKind rest))
    (hnot : ¬ ∃ t, i.tokens = [t] ∧ t.kind = .string) : loneString? (i.tokens ++ rest) = none := by
  have hbracketed := i.bracketed
  have hcomma := i.kind_ne_comma
  rcases hts : i.tokens with - | ⟨t, - | ⟨t', ts⟩⟩
  · cases rest with
    | nil => rfl
    | cons t r =>
      have hkind : t.kind ≠ .string := by
        rcases hrest with hkind | hkind <;> simp_all [headKind]
      simp [loneString?, hkind]
  · have hkind : t.kind ≠ .string := fun hkind => hnot ⟨t, hts, hkind⟩
    simp [loneString?, hkind]
  · rw [hts] at hbracketed hcomma
    by_cases hkind : t.kind = .string
    · -- the token behind the string is of the initializer, so it ends no member
      have hstring : isBracket braces t.kind = false := by rw [hkind]; rfl
      have hcomma' := hcomma [t] t' (Outside.head.token hstring)
      have hbrace : t'.kind ≠ .mark .closeBrace :=
        (hbracketed.tail hstring).head_ne_partner (m := .openBrace) (by decide) rfl (by decide)
      simp [loneString?, headKind, hcomma', hbrace]
    · simp [loneString?, hkind]

theorem gives_initializer (i : InitializerTokens) {rest : List Token}
    (hrest : Member.Ends (headKind rest)) :
    (initializer (i.tokens ++ rest)).Gives (" ".intercalate (i.tokens.map Token.value)) rest := by
  cases rest with
  | nil => rcases hrest with hkind | hkind <;> cases hkind
  | cons t r =>
    have hstop : (decide ((0 : Int) = 0) &&
        (decide (t.kind = .mark .comma) || decide (t.kind = .mark .closeBrace))) = true := by
      simpa [Member.Ends, headKind] using hrest
    have hend : (initializerParts 0 (t :: r)).Gives [] (t :: r) := by
      rw [initializerParts, if_pos hstop]
      exact .read
    have hparts :=
      gives_initializerParts i.bracketed (Int.le_refl 0) (fun _ => i.kind_ne_comma) hend
    rw [List.append_nil] at hparts
    exact hparts.map _

theorem gives_memberValue_none {rest : List Token} (hrest : Member.Ends (headKind rest)) :
    (memberValue rest).Gives (none, none) rest := by
  cases rest with
  | nil => exact .read
  | cons t r =>
    have hkind : t.kind ≠ .mark .equals := by
      rcases hrest with hkind | hkind <;> simp_all [headKind]
    rw [memberValue, if_neg hkind]
    exact .read

theorem gives_memberValue_string {equals t : Token} {rest : List Token}
    (hequals : equals.kind = .mark .equals) (ht : t.kind = .string)
    (hrest : Member.Ends (headKind rest)) :
    (memberValue (equals :: t :: rest)).Gives (some t.value, none) rest := by
  have hlone : loneString? (t :: rest) = some (t.value, rest) := by
    rcases hrest with hend | hend <;> simp [loneString?, ht, hend]
  rw [memberValue, if_pos hequals]
  split
  · next heq =>
    cases hlone.symm.trans heq
    exact .read
  · next heq => cases hlone.symm.trans heq

theorem gives_memberValue_initializer (i : InitializerTokens) {rest : List Token}
    (hrest : Member.Ends (headKind rest)) (hnot : ¬ ∃ t, i.tokens = [t] ∧ t.kind = .string) :
    (memberValue (i.equals :: (i.tokens ++ rest))).Gives
      (none, some (" ".intercalate (i.tokens.map Token.value))) rest := by
  have hlone := loneString?_eq_none i hrest hnot
  rw [memberValue, if_pos i.equals_kind]
  split
  · next heq => cases hlone.symm.trans heq
  · exact ((gives_initializer i hrest).map _).weaken

namespace MemberTokens

theorem readAs_none {name : Token} (hname : IsMemberName name.kind) :
    ReadAs ⟨name, hname, none⟩ ⟨name.value, none, none⟩ where
  name := rfl
  value := by simp [IsString]
  initializer := by simp
  text := by simp

theorem readAs_string {name t : Token} (hname : IsMemberName name.kind) {i : InitializerTokens}
    (htokens : i.tokens = [t]) (ht : t.kind = .string) :
    ReadAs ⟨name, hname, some i⟩ ⟨name.value, some t.value, none⟩ where
  name := rfl
  value := by simp [IsString, htokens, ht]
  initializer := by simp [IsString, htokens, ht]
  text := by simp

theorem readAs_initializer {name : Token} (hname : IsMemberName name.kind) {i : InitializerTokens}
    (hnot : ¬ ∃ t, i.tokens = [t] ∧ t.kind = .string) :
    ReadAs ⟨name, hname, some i⟩
      ⟨name.value, none, some (" ".intercalate (i.tokens.map Token.value))⟩ := by
  have hstring (value : String) : ¬ IsString ⟨name, hname, some i⟩ value := by
    rintro ⟨i', t, hi, htokens, ht, -⟩
    cases hi
    exact hnot ⟨t, htokens, ht⟩
  exact ⟨rfl, by simp [hstring], by simp [hstring], by simp⟩

end MemberTokens

theorem exists_gives_memberValue (m : MemberTokens) {rest : List Token}
    (hrest : Member.Ends (headKind rest)) : ∃ value text,
      (memberValue (m.ending ++ rest)).Gives (value, text) rest ∧
        m.ReadAs ⟨m.name.value, value, text⟩ := by
  obtain ⟨name, hname, initializer⟩ := m
  cases initializer with
  | none => exact ⟨none, none, gives_memberValue_none hrest, MemberTokens.readAs_none hname⟩
  | some i =>
    by_cases hlone : ∃ t, i.tokens = [t] ∧ t.kind = .string
    · obtain ⟨t, htokens, ht⟩ := hlone
      refine ⟨some t.value, none, ?_, MemberTokens.readAs_string hname htokens ht⟩
      have hending : MemberTokens.ending ⟨name, hname, some i⟩ = [i.equals, t] := by
        simp [MemberTokens.ending, htokens]
      rw [hending]
      exact gives_memberValue_string i.equals_kind ht hrest
    · exact ⟨none, _, gives_memberValue_initializer i hrest hlone,
        MemberTokens.readAs_initializer hname hlone⟩

/-! ## Lists of members -/

/-- One member is read, and then those behind its end. -/
theorem exists_gives_members_cons (enumeration : String) (m : MemberTokens)
    {ms : List MemberTokens} {after rest rest' : List Token} {members' : List Member}
    (hafter : Member.Ends (headKind after)) (hend : (memberEnd after).Gives () rest)
    (hrest : (members enumeration rest).Gives members' rest')
    (hms : List.Forall₂ MemberTokens.ReadAs ms members') : ∃ members'',
      (members enumeration (m.tokens ++ after)).Gives members'' rest' ∧
        List.Forall₂ MemberTokens.ReadAs (m :: ms) members'' := by
  obtain ⟨value, text, hvalue, hm⟩ := exists_gives_memberValue m hafter
  refine ⟨_, ?_, .cons hm hms⟩
  rw [MemberTokens.tokens, List.cons_append, members, if_neg (m.isMemberName.ne_mark _)]
  refine (gives_takeMemberName m.isMemberName _).andThen fun _ => ?_
  refine hvalue.andThen fun _ => ?_
  refine hend.andThen fun _ => ?_
  exact hrest.andThen fun _ => .read

theorem exists_gives_members {ms : List MemberTokens} {ts : List Token} (h : MemberList ms ts)
    (enumeration : String) {closing : Token} (hclosing : closing.kind = .mark .closeBrace)
    (rest : List Token) : ∃ members',
      (members enumeration (ts ++ closing :: rest)).Gives members' (closing :: rest) ∧
        List.Forall₂ MemberTokens.ReadAs ms members' := by
  have hnone : (members enumeration (closing :: rest)).Gives [] (closing :: rest) := by
    rw [members, if_pos hclosing]
    exact .read
  induction h with
  | nil => exact ⟨[], hnone, .nil⟩
  | @last m =>
    have hend : (memberEnd (closing :: rest)).Gives () (closing :: rest) := by
      rw [memberEnd, if_pos (by rwa [headKind])]
      exact .read
    exact exists_gives_members_cons enumeration m (.inr hclosing) hend hnone .nil
  | @cons m comma ms ts hcomma _ ih =>
    obtain ⟨members', hmembers, hms⟩ := ih
    have hend :
        (memberEnd (comma :: (ts ++ closing :: rest))).Gives () (ts ++ closing :: rest) := by
      rw [memberEnd, if_neg (by simp [headKind, hcomma])]
      exact ((gives_takeKind hcomma _).map _).weaken
    rw [List.append_assoc, List.cons_append]
    exact exists_gives_members_cons enumeration m (.inl hcomma) hend hmembers hms

/-- An enumeration has a member for each one in its list, in order. A member has a value just if a
string alone is its initializer, and the enumeration ends with its closing brace. -/
theorem enumeration_reads_members (file : Path) (start : Position)
    {keyword name opening closing : Token} (hkeyword : keyword.kind = .keyword .enumWord)
    (hname : name.kind.isName = true) (hopening : opening.kind = .mark .openBrace)
    (hclosing : closing.kind = .mark .closeBrace) {ms : List MemberTokens} {ts : List Token}
    (hms : MemberList ms ts) (rest : List Token) :
    ∃ e, (enumeration file start (keyword :: name :: opening :: (ts ++ closing :: rest))).Gives e
        rest ∧
      e.name = name.value ∧ e.members.length = ms.length ∧
        List.Forall₂ MemberTokens.ReadAs ms e.members := by
  obtain ⟨members', hmembers, hread⟩ := exists_gives_members hms name.value hclosing rest
  refine ⟨⟨name.value, members', some (locate file start)⟩, ?_, rfl, hread.length_eq.symm, hread⟩
  rw [enumeration]
  refine (gives_takeKind hkeyword _).andThen fun _ => ?_
  refine (gives_takeName hname _).andThen fun _ => ?_
  refine (gives_takeKind hopening _).andThen fun _ => ?_
  refine hmembers.andThen fun _ => ?_
  exact (gives_takeKind hclosing _).andThen fun _ => .read

/-- The member `b = f(\x7b,\x7d)`. -/
def callMember : MemberTokens where
  name := ⟨.identifier, "b", .start⟩
  isMemberName := .inr rfl
  initializer := some {
    equals := ⟨.mark .equals, "=", .start⟩
    tokens := [⟨.identifier, "f", .start⟩, ⟨.mark .openParen, "(", .start⟩,
      ⟨.mark .openBrace, "\x7b", .start⟩, ⟨.mark .comma, ",", .start⟩,
      ⟨.mark .closeBrace, "\x7d", .start⟩, ⟨.mark .closeParen, ")", .start⟩]
    equals_kind := rfl
    bracketed := by
      refine .token rfl (.group [_, _, _] (m := .openParen) (by decide) rfl rfl rfl ?_ .nil)
      exact .group [_] (m := .openBrace) (by decide) rfl rfl rfl (.token rfl .nil) .nil
    kind_ne_comma := fun _ _ h => h.kind_ne_of_count (m := .openBrace) (by decide) rfl (by decide) }

def stringMember : MemberTokens where
  name := ⟨.string, "c", .start⟩
  isMemberName := .inl rfl
  initializer := some {
    equals := ⟨.mark .equals, "=", .start⟩
    tokens := [⟨.string, "v", .start⟩]
    equals_kind := rfl
    bracketed := .token rfl .nil
    kind_ne_comma := fun _ _ h => h.kind_ne_of_count (m := .openBrace) (by decide) rfl (by decide) }

theorem enumeration_reads_call_and_string :
    MemberList [callMember, stringMember] (callMember.tokens ++ ⟨.mark .comma, ",", .start⟩ ::
      (stringMember.tokens ++ [⟨.mark .comma, ",", .start⟩])) ∧
    ∃ e, (enumeration (.ofString "a") .start (⟨.keyword .enumWord, "enum", .start⟩ ::
        ⟨.identifier, "N", .start⟩ :: ⟨.mark .openBrace, "\x7b", .start⟩ ::
        (callMember.tokens ++ ⟨.mark .comma, ",", .start⟩ ::
          (stringMember.tokens ++ [⟨.mark .comma, ",", .start⟩]) ++
          ⟨.mark .closeBrace, "\x7d", .start⟩ :: []))).Gives e [] ∧
      e.name = "N" ∧ e.members.length = 2 ∧
        List.Forall₂ MemberTokens.ReadAs [callMember, stringMember] e.members := by
  have hms : MemberList [callMember, stringMember] (callMember.tokens ++
      ⟨.mark .comma, ",", .start⟩ :: (stringMember.tokens ++ [⟨.mark .comma, ",", .start⟩])) :=
    .cons rfl (.cons rfl .nil)
  exact ⟨hms, enumeration_reads_members _ _ rfl rfl rfl rfl hms _⟩

end SchemaGrammar.Source
