import SchemaGrammar.Proofs.Notation.Signs

/-!
# Rules read back from their signs

Signs are read with one frame for each pair of parentheses that is open. What has been read when
all signs of alternatives are used up are the alternatives in normal form.
-/
namespace SchemaGrammar

/-! ## The signs of plain rules are legible -/

structure Rule.IsPlain (rule : Rule) : Prop where
  names : ∀ name, (Rule.reference name).Within rule → isPlainName name = true
  patterns : ∀ pattern, (Rule.charClass pattern).Within rule → pattern ∈ Builtin.patterns

namespace Sign

variable {sign : Sign} {signs signs' : List Sign}

theorem legible_nil : Legible [] := ⟨by simp, .nil⟩

theorem legible_singleton (hplain : sign.IsPlain) : Legible [sign] := ⟨by simpa, .singleton _⟩

/-- Signs on both sides of one that is no atom. -/
theorem Legible.append_cons (h : Legible signs) (hplain : sign.IsPlain)
    (hatom : sign.isAtom = false) (h' : Legible signs') : Legible (signs ++ sign :: signs') := by
  refine ⟨?_, ?_⟩
  · intro x hx
    rw [List.mem_append, List.mem_cons] at hx
    obtain hx | rfl | hx := hx
    · exact h.plain x hx
    · exact hplain
    · exact h'.plain x hx
  · rw [List.isChain_append]
    refine ⟨h.apart, List.isChain_cons.mpr ⟨fun _ _ => .inl hatom, h'.apart⟩, fun x _ y hy => ?_⟩
    cases hy
    exact .inr hatom

theorem Legible.intercalate {signss : List (List Sign)} (hplain : sign.IsPlain)
    (hatom : sign.isAtom = false) (h : ∀ signs ∈ signss, Legible signs) :
    Legible ([sign].intercalate signss) := by
  induction signss with
  | nil => exact legible_nil
  | cons signs signss ih =>
    rw [List.forall_mem_cons] at h
    cases signss with
    | nil => simpa [List.intercalate] using h.1
    | cons signs' signss =>
      rw [List.intercalate_cons_cons, List.append_assoc, List.singleton_append]
      exact h.1.append_cons hplain hatom (ih h.2)

theorem Legible.parenthesized (h : Legible signs) (repeats : Bool) :
    Legible (.opening :: (signs ++ [.closing repeats])) :=
  legible_nil.append_cons trivial rfl (h.append_cons trivial rfl legible_nil)

end Sign

namespace Rule

open Sign

theorem IsPlain.legible_signs {rule : Rule} (h : rule.IsPlain) : Legible rule.signs := by
  induction rule using Rule.induction with
  | sequence rules ih =>
    rw [signs, signsOf_eq_map]
    refine .intercalate trivial rfl (List.forall_mem_map.mpr fun rule hrule => ih rule hrule ?_)
    exact ⟨fun name hn => h.names name (.sequence hrule hn),
      fun pattern hp => h.patterns pattern (.sequence hrule hp)⟩
  | group rules repeats ih =>
    have hgaps : Legible ([Sign.gap].intercalate (rules.map signs)) := by
      refine .intercalate trivial rfl (List.forall_mem_map.mpr fun rule hrule => ih rule hrule ?_)
      exact ⟨fun name hn => h.names name (.group hrule hn),
        fun pattern hp => h.patterns pattern (.group hrule hp)⟩
    rw [signs, signsOf_eq_map]
    exact hgaps.parenthesized repeats
  | literal text => exact legible_singleton trivial
  | reference name => exact legible_singleton (h.names name .self)
  | charClass pattern => exact legible_singleton (h.patterns pattern .self)
  | choice first second others hfirst hsecond hothers =>
    have hfirst := hfirst ⟨fun name hn => h.names name (.first hn),
      fun pattern hp => h.patterns pattern (.first hp)⟩
    have hsecond := hsecond ⟨fun name hn => h.names name (.second hn),
      fun pattern hp => h.patterns pattern (.second hp)⟩
    have hothers : ∀ rule ∈ others, Legible rule.signs := fun rule hrule =>
      hothers rule hrule ⟨fun name hn => h.names name (.other hrule hn),
        fun pattern hp => h.patterns pattern (.other hrule hp)⟩
    have hbars : Legible ([Sign.bar].intercalate
        (first.signs :: second.signs :: others.map signs)) := by
      refine .intercalate trivial rfl ?_
      simp only [List.forall_mem_cons, List.forall_mem_map]
      exact ⟨hfirst, hsecond, hothers⟩
    rw [signs, signsOf_eq_map]
    exact hbars.parenthesized false

end Rule

/-! ## Reading signs -/

/-- The options read so far, and what has been read of the next one. -/
structure Frame where
  options : List Rule
  members : List Rule

namespace Frame

def all (f : Frame) : List Rule := f.options ++ [.ofMembers f.members]

def add (f : Frame) (rules : List Rule) : Frame := { f with members := f.members ++ rules }

/-- The rule that stands in parentheses: a choice if there are two options or more. -/
def rule (f : Frame) (repeats : Bool) : Rule :=
  match f.all with
  | first :: second :: others => .choice first second others
  | _ => .group f.members repeats

end Frame

/-- The frame being read, and those of the parentheses around it. -/
structure Frames where
  inner : Frame
  outer : List Frame

namespace Frames

def add (fs : Frames) (rules : List Rule) : Frames := { fs with inner := fs.inner.add rules }

theorem add_nil (fs : Frames) : fs.add [] = fs := by
  rw [add, Frame.add, List.append_nil]

theorem add_add (fs : Frames) (rules rules' : List Rule) :
    (fs.add rules).add rules' = fs.add (rules ++ rules') := by
  rw [add, add, add, Frame.add, Frame.add, Frame.add, List.append_assoc]

def read (fs : Frames) : Sign → Frames
  | .gap => fs
  | .bar => { fs with inner := ⟨fs.inner.all, []⟩ }
  | .opening => ⟨⟨[], []⟩, fs.inner :: fs.outer⟩
  | .closing repeats =>
    match fs.outer with
    | [] => fs
    | f :: outer => ⟨f.add [fs.inner.rule repeats], outer⟩
  | .literal text => fs.add [.literal text]
  | .reference name => fs.add [.reference name]
  | .charClass pattern => fs.add [.charClass pattern]

/-- Whether reading the signs of a rule adds its members. -/
def ReadsBack (rule : Rule) : Prop :=
  ∀ fs : Frames, rule.signs.foldl read fs = fs.add rule.members

theorem foldl_gaps {rules : List Rule} (h : ∀ rule ∈ rules, ReadsBack rule) (fs : Frames) :
    ([Sign.gap].intercalate (rules.map Rule.signs)).foldl read fs =
      fs.add (rules.flatMap Rule.members) := by
  induction rules generalizing fs with
  | nil => exact fs.add_nil.symm
  | cons rule rules ih =>
    rw [List.forall_mem_cons] at h
    cases rules with
    | nil => simp [List.intercalate, h.1 fs]
    | cons rule' rules =>
      have hrest := ih h.2 (fs.add rule.members)
      rw [List.map_cons] at hrest
      rw [List.map_cons, List.map_cons, List.intercalate_cons_cons, List.foldl_append,
        List.foldl_append, h.1, List.foldl_cons, List.foldl_nil, read, hrest, add_add]
      rfl

/-- After options with bars between them, all are there in normal form. -/
theorem foldl_bars {rule : Rule} {rules : List Rule} (h : ∀ r ∈ rule :: rules, ReadsBack r)
    (options : List Rule) (outer : List Frame) :
    ∃ inner, ([Sign.bar].intercalate ((rule :: rules).map Rule.signs)).foldl read
        ⟨⟨options, []⟩, outer⟩ = ⟨inner, outer⟩ ∧
      inner.all = options ++ (rule :: rules).map Rule.normal := by
  induction rules generalizing rule options with
  | nil =>
    rw [List.forall_mem_cons] at h
    refine ⟨⟨options, rule.members⟩, ?_, rfl⟩
    simp [List.intercalate, h.1 _, add, Frame.add]
  | cons rule' rules ih =>
    rw [List.forall_mem_cons] at h
    obtain ⟨inner, hread, hall⟩ := ih h.2 (options ++ [rule.normal])
    refine ⟨inner, ?_, by rw [hall, List.append_assoc, List.singleton_append]; rfl⟩
    rw [List.map_cons] at hread
    rw [List.map_cons, List.map_cons, List.intercalate_cons_cons, List.foldl_append,
      List.foldl_append, h.1, List.foldl_cons, List.foldl_nil]
    exact hread

theorem readsBack (rule : Rule) : ReadsBack rule := by
  induction rule using Rule.induction with
  | sequence rules ih =>
    intro fs
    rw [Rule.signs, Rule.signsOf_eq_map, foldl_gaps ih, Rule.members, Rule.membersOf_eq_flatMap]
  | group rules repeats ih =>
    intro fs
    rw [Rule.signs, Rule.signsOf_eq_map, List.foldl_cons, List.foldl_append, foldl_gaps ih,
      Rule.members, Rule.membersOf_eq_flatMap]
    rfl
  | literal text => exact fun fs => rfl
  | reference name => exact fun fs => rfl
  | charClass pattern => exact fun fs => rfl
  | choice first second others hfirst hsecond hothers =>
    intro fs
    have h : ∀ rule ∈ first :: second :: others, ReadsBack rule := by
      simp only [List.forall_mem_cons]
      exact ⟨hfirst, hsecond, hothers⟩
    obtain ⟨inner, hread, hall⟩ := foldl_bars h [] (fs.inner :: fs.outer)
    rw [List.map_cons, List.map_cons] at hread
    rw [Rule.signs, Rule.signsOf_eq_map, List.foldl_cons, List.foldl_append]
    -- the options are read in a frame of their own, which the last sign closes
    change List.foldl read (List.foldl read ⟨⟨[], []⟩, fs.inner :: fs.outer⟩ _) _ = _
    rw [hread, List.foldl_cons, List.foldl_nil, read, Frame.rule, hall, Rule.members,
      Rule.normals_eq_map]
    rfl

end Frames

/-- Alternatives of the same signs have the same normal forms. -/
theorem Rule.map_normal_eq_of_signs_eq {rule rule' : Rule} {rules rules' : List Rule}
    (h : [Sign.bar].intercalate ((rule :: rules).map Rule.signs) =
      [Sign.bar].intercalate ((rule' :: rules').map Rule.signs)) :
    (rule :: rules).map Rule.normal = (rule' :: rules').map Rule.normal := by
  obtain ⟨inner, hread, hall⟩ :=
    Frames.foldl_bars (fun r (_ : r ∈ rule :: rules) => Frames.readsBack r) [] []
  obtain ⟨inner', hread', hall'⟩ :=
    Frames.foldl_bars (fun r (_ : r ∈ rule' :: rules') => Frames.readsBack r) [] []
  rw [h, hread'] at hread
  cases hread
  rw [List.nil_append] at hall hall'
  rw [← hall, ← hall']

end SchemaGrammar
