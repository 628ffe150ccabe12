import SchemaGrammar.Proofs.Source.TakenTokens

/-!
# What parts give

A part gives a value and leaves tokens if it is read and not at fault. Parts in sequence give what
the last of them gives, and only if all of them give something.
-/
namespace SchemaGrammar.Source

/-- The part is read as `a`, and `rest` is left. -/
def Part.Gives {α : Type} {n : Nat} (p : Part α n) (a : α) (rest : List Token) : Prop :=
  ∃ le, p = .read a rest le

namespace Part.Gives

variable {α β : Type} {m n : Nat} {p : Part α m} {a : α} {b : β} {rest rest' : List Token}

theorem read {le : rest.length ≤ m} : Gives (.read a rest le) a rest := ⟨le, rfl⟩

theorem andThen {next : α → (ts : List Token) → ts.length ≤ m → Part β n} (hp : p.Gives a rest)
    (hnext : ∀ h, (next a rest h).Gives b rest') : (p.andThen next).Gives b rest' := by
  obtain ⟨le, rfl⟩ := hp
  exact hnext le

theorem of_andThen {next : α → (ts : List Token) → ts.length ≤ m → Part β n}
    (h : (p.andThen next).Gives b rest') :
    ∃ a rest le, p.Gives a rest ∧ (next a rest le).Gives b rest' := by
  cases p with
  | read a rest le => exact ⟨a, rest, le, .read, h⟩
  | fault cause rest =>
    obtain ⟨le, heq⟩ := h
    cases heq

theorem weaken (hp : p.Gives a rest) {h : m ≤ n} : (p.weaken h).Gives a rest :=
  hp.andThen fun _ => .read

theorem of_weaken {h : m ≤ n} (hp : (p.weaken h).Gives a rest) : p.Gives a rest := by
  obtain ⟨a', rest', le, hp, le', heq⟩ := hp.of_andThen
  cases heq
  exact hp

theorem map (hp : p.Gives a rest) (f : α → β) : (p.map f).Gives (f a) rest :=
  hp.andThen fun _ => .read

theorem of_map {f : α → β} (hp : (p.map f).Gives b rest) : ∃ a, p.Gives a rest ∧ b = f a := by
  obtain ⟨a, rest', le, hp, le', heq⟩ := hp.of_andThen
  cases heq
  exact ⟨a, hp, rfl⟩

theorem not_fault {cause : FaultCause} : ¬ Gives (.fault cause rest : Part α m) a rest' := by
  rintro ⟨le, heq⟩
  cases heq

theorem unique {a' : α} (hp : p.Gives a rest) (hp' : p.Gives a' rest') : a = a' ∧ rest = rest' := by
  obtain ⟨le, rfl⟩ := hp
  obtain ⟨le', heq⟩ := hp'
  cases heq
  exact ⟨rfl, rfl⟩

end Part.Gives

theorem Part.Takes.suffix {α : Type} {n : Nat} {ts rest : List Token} {p : Part α n} {a : α}
    {good : List Token → α → Prop} (hp : p.Takes ts good) (h : p.Gives a rest) : rest <:+ ts := by
  obtain ⟨le, hread⟩ := h
  obtain ⟨taken, rfl, -⟩ := hp a rest le hread
  exact List.suffix_append taken rest

theorem gives_takeKind {t : Token} {kind : TokenKind} (h : t.kind = kind) (r : List Token) :
    (takeKind kind (t :: r)).Gives t r := by
  rw [takeKind, if_pos h]
  exact .read

theorem eq_of_gives_takeKind {kind : TokenKind} {t a : Token} {r rest : List Token}
    (h : (takeKind kind (t :: r)).Gives a rest) : t = a ∧ r = rest := by
  rw [takeKind] at h
  split_ifs at h
  · exact Part.Gives.unique .read h
  · exact absurd h Part.Gives.not_fault

theorem gives_takeName {t : Token} (h : t.kind.isName = true) (r : List Token) :
    (takeName (t :: r)).Gives t r := by
  rw [takeName, if_pos h]
  exact .read

theorem eq_of_gives_takeName {t a : Token} {r rest : List Token}
    (h : (takeName (t :: r)).Gives a rest) : t = a ∧ r = rest := by
  rw [takeName] at h
  split_ifs at h
  · exact Part.Gives.unique .read h
  · exact absurd h Part.Gives.not_fault

theorem gives_takeMemberName {t : Token} (h : IsMemberName t.kind) (r : List Token) :
    (takeMemberName (t :: r)).Gives t r := by
  rw [takeMemberName]
  split_ifs with hstring
  · exact .read
  · exact gives_takeName (h.resolve_left hstring) r

end SchemaGrammar.Source
