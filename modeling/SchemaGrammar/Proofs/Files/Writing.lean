import Mathlib.Data.List.Infix
import Mathlib.Tactic.SplitIfs
import Mathlib.Tactic.Tauto
import SchemaGrammar.Files.Tree

/-!
# What writing changes

Writing to a path puts a file at its place and makes the directories that are missing on the way.
Everything else stays where and what it was.
-/
namespace SchemaGrammar

namespace Path

/-- The path of the first names of `p`. -/
def upTo (p : Path) (n : Nat) : Path := { p with names := p.names.take n }

theorem upTo_length (p : Path) : p.upTo p.names.length = p := by
  rw [upTo, List.take_length]

theorem upTo_parent (p : Path) (n : Nat) :
    p.parent.upTo n = p.upTo (min n (p.names.length - 1)) := by
  rw [upTo, parent, upTo, List.dropLast_eq_take, List.take_take]

end Path

namespace Files.Tree

variable {t t' t'' : Tree} {p : Path} {place : List String}

theorem node?_eq_file_iff {bytes : ByteArray} :
    t.node? place = some (.file bytes) ↔ t.file? place = some bytes := by
  rw [node?]
  cases t.file? place with
  | some b => simp
  | none =>
    dsimp only
    split_ifs <;> simp

theorem node?_eq_directory_iff : t.node? place = some .directory ↔
    t.file? place = none ∧ (place = [] ∨ t.isDirectory place = true) := by
  rw [node?]
  cases t.file? place <;> simp [or_iff_not_imp_left]

/-- Where a tree has the same file as another, and directories above a goal besides. -/
theorem node?_eq_some_iff_of_more {goal : List String} (hfile : t'.file? place = t.file? place)
    (hdirectory : t'.isDirectory place = true ↔ t.isDirectory place = true ∨ place <+: goal)
    {node : Node} : t'.node? place = some node ↔ t.node? place = some node ∨
      node = .directory ∧ t.file? place = none ∧ place <+: goal := by
  cases node with
  | file bytes => simp [node?_eq_file_iff, hfile]
  | directory =>
    simp only [node?_eq_directory_iff, hfile, hdirectory, true_and]
    tauto

/-! ## Ways -/

/-- The directories of `t` are directories of `t'`. -/
structure KeepsDirectories (t t' : Tree) : Prop where
  workingDirectory : t'.workingDirectory = t.workingDirectory
  directory : ∀ place, t.node? place = some .directory → t'.node? place = some .directory

theorem KeepsDirectories.step_eq (h : KeepsDirectories t t') {name : String} {next : List String}
    (hstep : t.step place name = .ok next) : t'.step place name = .ok next := by
  rw [step] at hstep ⊢
  cases hnode : t.node? place with
  | none =>
    rw [hnode] at hstep
    cases hstep
  | some node =>
    rw [hnode] at hstep
    cases node with
    | file bytes => cases hstep
    | directory =>
      rw [h.directory place hnode]
      exact hstep

/-- Where directories stay, a path leads where it led. -/
theorem KeepsDirectories.locate_eq (h : KeepsDirectories t t') (hlocate : t.locate p = .ok place) :
    t'.locate p = .ok place := by
  have hsteps (names : List String) (start : List String)
      (hfold : names.foldlM t.step start = .ok place) :
      names.foldlM t'.step start = .ok place := by
    induction names generalizing start with
    | nil => exact hfold
    | cons name names ih =>
      rw [List.foldlM_cons] at hfold ⊢
      cases hstep : t.step start name with
      | error f =>
        rw [hstep] at hfold
        cases hfold
      | ok next =>
        rw [hstep] at hfold
        rw [h.step_eq hstep]
        exact ih next hfold
  rw [locate] at hlocate ⊢
  rw [h.workingDirectory]
  exact hsteps _ _ hlocate

/-- A directory that the first names of a path lead to, or one above it. -/
def OnTheWay (t : Tree) (p : Path) (place : List String) : Prop :=
  ∃ n goal, t.locate (p.upTo n) = .ok goal ∧ place <+: goal

theorem onTheWay_of_locate {goal : List String} (hlocate : t.locate p = .ok goal)
    (hplace : place <+: goal) : t.OnTheWay p place :=
  ⟨p.names.length, goal, by rw [p.upTo_length, hlocate], hplace⟩

theorem OnTheWay.of_parent (h : t.OnTheWay p.parent place) : t.OnTheWay p place := by
  obtain ⟨n, goal, hgoal, hplace⟩ := h
  rw [p.upTo_parent] at hgoal
  exact ⟨_, goal, hgoal, hplace⟩

theorem KeepsDirectories.onTheWay (h : KeepsDirectories t t') (hplace : t.OnTheWay p place) :
    t'.OnTheWay p place := by
  obtain ⟨n, goal, hgoal, hplace⟩ := hplace
  exact ⟨n, goal, h.locate_eq hgoal, hplace⟩

/-! ## Directories -/

/-- The tree `t'` is `t` but for directories that were missing on the way of `p`. -/
structure Grown (p : Path) (t t' : Tree) : Prop where
  workingDirectory : t'.workingDirectory = t.workingDirectory
  kept : ∀ place node, t.node? place = some node → t'.node? place = some node
  made : ∀ place node, t'.node? place = some node →
    t.node? place = some node ∨ node = .directory ∧ t'.OnTheWay p place

namespace Grown

theorem keepsDirectories (h : Grown p t t') : KeepsDirectories t t' :=
  ⟨h.workingDirectory, fun place => h.kept place _⟩

theorem refl (p : Path) (t : Tree) : Grown p t t :=
  ⟨rfl, fun _ _ => id, fun _ _ => .inl⟩

theorem trans (h : Grown p t t') (h' : Grown p t' t'') : Grown p t t'' where
  workingDirectory := h'.workingDirectory.trans h.workingDirectory
  kept place node hnode := h'.kept place node (h.kept place node hnode)
  made place node hnode := by
    obtain hnode | hmade := h'.made place node hnode
    · obtain hnode | ⟨hnode, hplace⟩ := h.made place node hnode
      · exact .inl hnode
      · exact .inr ⟨hnode, h'.keepsDirectories.onTheWay hplace⟩
    · exact .inr hmade

theorem of_parent (h : Grown p.parent t t') : Grown p t t' where
  workingDirectory := h.workingDirectory
  kept := h.kept
  made place node hnode :=
    (h.made place node hnode).imp_right fun hmade => ⟨hmade.1, hmade.2.of_parent⟩

end Grown

theorem grown_of_makeDirectory (h : t.makeDirectory p = .ok t') : Grown p t t' := by
  rw [makeDirectory] at h
  cases hlocate : t.locate p with
  | error f =>
    rw [hlocate] at h
    cases h
  | ok goal =>
  simp only [bind, Except.bind, hlocate] at h
  obtain rfl : { t with directories := goal :: t.directories } = t' := by
    cases hgoal : t.node? goal with
    | some node =>
      rw [hgoal] at h
      cases h
    | none =>
      rw [hgoal] at h
      exact Except.ok.inj h
  have hfile (place : List String) :
      { t with directories := goal :: t.directories }.file? place = t.file? place := rfl
  have hnode (place : List String) (node : Node) :
      { t with directories := goal :: t.directories }.node? place = some node ↔
        t.node? place = some node ∨ node = .directory ∧ t.file? place = none ∧ place <+: goal := by
    refine node?_eq_some_iff_of_more (hfile place) ?_
    simp only [isDirectory, List.any_cons, Bool.or_eq_true, List.isPrefixOf_iff_prefix]
    tauto
  have hkept : KeepsDirectories t { t with directories := goal :: t.directories } :=
    ⟨rfl, fun place hplace => (hnode place _).mpr (.inl hplace)⟩
  refine ⟨rfl, fun place node hplace => (hnode place node).mpr (.inl hplace), ?_⟩
  intro place node hplace
  refine ((hnode place node).mp hplace).imp_right fun hmade => ⟨hmade.1, ?_⟩
  exact onTheWay_of_locate (hkept.locate_eq hlocate) hmade.2.2

theorem grown_of_ensureDirectory (h : t.ensureDirectory p = .ok t') : Grown p t t' := by
  rw [ensureDirectory] at h
  cases hmake : t.makeDirectory p with
  | ok t₁ =>
    rw [hmake] at h
    cases h
    exact grown_of_makeDirectory hmake
  | error f =>
    rw [hmake] at h
    dsimp only at h
    split_ifs at h
    cases h
    exact .refl p t

theorem grown_of_ensureDirectories (h : t.ensureDirectories p = .ok t') : Grown p t t' := by
  induction p using ensureDirectories.induct t generalizing t' with
  | case1 p hmissing hnames =>
    rw [ensureDirectories.eq_def, hmissing] at h
    simp [hnames] at h
  | case2 p hmissing hnames ih =>
    rw [ensureDirectories.eq_def, hmissing] at h
    simp only [hnames, if_false] at h
    -- The directories above come first.
    cases hparent : t.ensureDirectories p.parent with
    | error f =>
      rw [hparent] at h
      cases h
    | ok t₁ =>
      rw [hparent] at h
      exact (ih hparent).of_parent.trans (grown_of_ensureDirectory h)
  | case3 p hother =>
    rw [ensureDirectories.eq_def] at h
    split at h
    · next hmissing => exact absurd hmissing hother
    · exact grown_of_ensureDirectory h

/-! ## Files -/

def withFile (t : Tree) (place : List String) (bytes : ByteArray) : Tree :=
  { t with files := (place, bytes) :: t.files.filter (·.1 ≠ place) }

theorem file?_withFile (t : Tree) (place : List String) (bytes : ByteArray) :
    (t.withFile place bytes).file? place = some bytes := by
  simp [file?, withFile]

theorem file?_withFile_of_ne {other : List String} (h : other ≠ place) (t : Tree)
    (bytes : ByteArray) : (t.withFile place bytes).file? other = t.file? other := by
  rw [file?, withFile, file?, List.find?_cons, List.find?_filter]
  simp only [h.symm, decide_false]
  congr 2
  funext f
  by_cases hf : f.1 = other <;> simp [hf, h]

theorem isDirectory_withFile (t : Tree) (bytes : ByteArray) (other : List String) :
    (t.withFile place bytes).isDirectory other = true ↔
      t.isDirectory other = true ∨ other <+: place := by
  simp only [isDirectory, withFile, List.any_cons, List.any_filter, Bool.or_eq_true,
    List.isPrefixOf_iff_prefix, List.any_eq_true, Bool.and_eq_true, decide_eq_true_eq]
  constructor
  · rintro (hd | hp | ⟨f, hf, -, hp⟩)
    · exact .inl (.inl hd)
    · exact .inr hp
    · exact .inl (.inr ⟨f, hf, hp⟩)
  · rintro ((hd | ⟨f, hf, hp⟩) | hp)
    · exact .inl hd
    · -- The file that made `other` a directory may be the one that is replaced.
      obtain hplace | hplace := eq_or_ne f.1 place
      · exact .inr (.inl (hplace ▸ hp))
      · exact .inr (.inr ⟨f, hf, hplace, hp⟩)
    · exact .inr (.inl hp)

/-- Writing `bytes` to a path that leads to `place` makes `t'` of `t`: the file is there, nothing
else is lost or changed, and what is new besides are directories on the way. -/
structure Writes (p : Path) (bytes : ByteArray) (place : List String) (t t' : Tree) : Prop where
  workingDirectory : t'.workingDirectory = t.workingDirectory
  locate_eq : t'.locate p = .ok place
  written : t'.node? place = some (.file bytes)
  kept : ∀ other, other ≠ place → ∀ node, t.node? other = some node → t'.node? other = some node
  made : ∀ other, other ≠ place → ∀ node, t'.node? other = some node →
    t.node? other = some node ∨ node = .directory ∧ t'.OnTheWay p other

theorem exists_writes_of_write {bytes : ByteArray} (h : t.write p bytes = .ok t') :
    ∃ place, Writes p bytes place t t' := by
  rw [write] at h
  -- The place is where the path leads once its directories are there, and still leads when the
  -- file is there.
  cases hensure : t.ensureDirectories p.parent with
  | error f =>
    rw [hensure] at h
    cases h
  | ok t₁ =>
  have hgrown := (grown_of_ensureDirectories hensure).of_parent
  rw [hensure] at h
  cases hlocate : t₁.locate p with
  | error f =>
    simp only [bind, Except.bind, hlocate] at h
    cases h
  | ok place =>
  simp only [bind, Except.bind, hlocate] at h
  have hplace : t₁.node? place ≠ some .directory := by
    intro hnode
    rw [hnode] at h
    cases h
  obtain rfl : t₁.withFile place bytes = t' := by
    split at h
    · next hnode => exact absurd hnode hplace
    · exact Except.ok.inj h
  have hnode (other : List String) (hother : other ≠ place) (node : Node) :
      (t₁.withFile place bytes).node? other = some node ↔ t₁.node? other = some node ∨
        node = .directory ∧ t₁.file? other = none ∧ other <+: place :=
    node?_eq_some_iff_of_more (file?_withFile_of_ne hother t₁ bytes)
      (isDirectory_withFile t₁ bytes other)
  have hkept : KeepsDirectories t₁ (t₁.withFile place bytes) := by
    refine ⟨rfl, fun other hother => (hnode other ?_ _).mpr (.inl hother)⟩
    rintro rfl
    exact hplace hother
  have hlocate' := hkept.locate_eq hlocate
  refine ⟨place, hgrown.workingDirectory, hlocate', ?_, ?_, ?_⟩
  · exact node?_eq_file_iff.mpr (file?_withFile t₁ place bytes)
  · intro other hother node hold
    exact (hnode other hother node).mpr (.inl (hgrown.kept other node hold))
  · intro other hother node hnew
    obtain hnew | ⟨hdirectory, -, habove⟩ := (hnode other hother node).mp hnew
    · refine (hgrown.made other node hnew).imp_right fun hmade => ⟨hmade.1, ?_⟩
      exact hkept.onTheWay hmade.2
    · exact .inr ⟨hdirectory, onTheWay_of_locate hlocate' habove⟩

/-- Whether a file can be written does not depend on what is written. -/
theorem isOk_write (t : Tree) (p : Path) (bytes bytes' : ByteArray) :
    (t.write p bytes).isOk = (t.write p bytes').isOk := by
  rw [write, write]
  cases t.ensureDirectories p.parent with
  | error f => rfl
  | ok t =>
    dsimp only [bind, Except.bind]
    cases t.locate p with
    | error f => rfl
    | ok place =>
      dsimp only
      split <;> rfl

end Files.Tree

end SchemaGrammar
