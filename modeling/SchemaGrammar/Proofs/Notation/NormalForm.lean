import SchemaGrammar.Proofs.References

/-!
# Normal forms of rules

In normal form no sequence stands within a sequence, none that is empty stands there either, and
none has a single member. The elements made from a schema are in normal form.
-/
namespace SchemaGrammar

namespace Rule

/-- A statement about rules follows for each form of rule from the rules in it. -/
@[elab_as_elim]
theorem induction {P : Rule → Prop}
    (sequence : ∀ rules, (∀ rule ∈ rules, P rule) → P (.sequence rules))
    (group : ∀ rules repeats, (∀ rule ∈ rules, P rule) → P (.group rules repeats))
    (literal : ∀ text, P (.literal text)) (reference : ∀ name, P (.reference name))
    (charClass : ∀ pattern, P (.charClass pattern))
    (choice : ∀ first second others, P first → P second → (∀ rule ∈ others, P rule) →
      P (.choice first second others)) (rule : Rule) : P rule :=
  Rule.rec sequence group literal reference charClass choice (fun _ h => nomatch h)
    (fun _ _ hrule hrules _ h => by
      obtain rfl | h := List.mem_cons.mp h
      · exact hrule
      · exact hrules _ h) rule

/-- The rules as one: the only rule, or the sequence of them. -/
def ofMembers : List Rule → Rule
  | [rule] => rule
  | rules => .sequence rules

mutual

/-- What a rule adds to the sequence in which it stands, in normal form. -/
def members : Rule → List Rule
  | .sequence rules => membersOf rules
  | .group rules repeats => [.group (membersOf rules) repeats]
  | .literal text => [.literal text]
  | .reference name => [.reference name]
  | .charClass pattern => [.charClass pattern]
  | .choice first second others =>
    [.choice (ofMembers first.members) (ofMembers second.members) (normals others)]

def membersOf : List Rule → List Rule
  | [] => []
  | rule :: rules => rule.members ++ membersOf rules

def normals : List Rule → List Rule
  | [] => []
  | rule :: rules => ofMembers rule.members :: normals rules

end

/-- The rule with nested sequences spliced, empty ones dropped and those of one rule replaced. -/
def normal (rule : Rule) : Rule := ofMembers rule.members

@[simp] theorem membersOf_eq_flatMap (rules : List Rule) :
    membersOf rules = rules.flatMap members := by
  induction rules with
  | nil => rfl
  | cons rule rules ih => rw [membersOf, ih, List.flatMap_cons]

@[simp] theorem normals_eq_map (rules : List Rule) : normals rules = rules.map normal := by
  induction rules with
  | nil => rfl
  | cons rule rules ih => rw [normals, ih, List.map_cons, normal]

end Rule

end SchemaGrammar
