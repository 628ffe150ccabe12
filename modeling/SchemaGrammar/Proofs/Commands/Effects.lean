import SchemaGrammar.Proofs.Commands.Runs
import SchemaGrammar.Proofs.Files.Writing
import SchemaGrammar.Proofs.Notation.Halves

/-!
# All or nothing

A command that reports an error shows nothing and leaves every file and directory as it is, at
whatever stage it finds the error. A command that comes to its end has made the text of the
declarations of all its files, and has changed nothing but the file that was asked for.
-/
namespace SchemaGrammar

namespace Files.Tree

variable {t : Tree} {path : Path} {s : Schema} {m : Manifest}

def HoldsText (t : Tree) (path : Path) (text : String) : Prop :=
  ∃ bytes, t.read path = .ok bytes ∧ Text.ofBytes? bytes = some text

def HoldsSchema (t : Tree) (path : Path) (s : Schema) : Prop :=
  ∃ text, t.HoldsText path text ∧ Schema.ofFileText path text = .ok s

def HoldsManifest (t : Tree) (path : Path) (m : Manifest) : Prop :=
  ∃ text, t.HoldsText path text ∧ Manifest.ofText path text = .ok m

def HoldsEnumerations (t : Tree) (path : Path) (s : Schema) : Prop :=
  t.HoldsSchema path s ∧ ∀ d ∈ s.declarations, d.enumeration?.isSome

/-- The declarations of a schema are those that files hold, file after file, with the files of
enumerations in front. -/
def HoldsSchemas (t : Tree) (schemas enumerations : List Path) (s : Schema) : Prop :=
  ∃ found others, List.Forall₂ t.HoldsEnumerations enumerations found ∧
    List.Forall₂ t.HoldsSchema schemas others ∧
    s.declarations = (found ++ others).flatMap Schema.declarations

theorem read_eq_ok_iff {α ε : Type} {unreadable : Fault → ε} {undecodable : ε}
    {ofText : String → Except ε α} {a : α} :
    (do
      let bytes ← (t.read path).mapError unreadable
      match Text.ofBytes? bytes with
      | none => throw undecodable
      | some text => ofText text) = .ok a ↔
      ∃ text, t.HoldsText path text ∧ ofText text = .ok a := by
  unfold HoldsText
  cases t.read path with
  | error f => simp [Except.mapError, bind, Except.bind]
  | ok bytes =>
    dsimp only [Except.mapError, bind, Except.bind]
    cases htext : Text.ofBytes? bytes <;> simp [htext, throw, throwThe, MonadExceptOf.throw]

theorem schema_eq_ok_iff : t.schema path = .ok s ↔ t.HoldsSchema path s := read_eq_ok_iff

theorem manifest_eq_ok_iff : t.manifest path = .ok m ↔ t.HoldsManifest path m := read_eq_ok_iff

theorem enumerationsWith_eq_ok_iff {readers : Document.Readers} :
    t.enumerationsWith readers path = .ok s ↔
      t.schemaWith readers path = .ok s ∧ ∀ d ∈ s.declarations, d.enumeration?.isSome := by
  rw [enumerationsWith]
  cases t.schemaWith readers path with
  | error e => simp [bind, Except.bind]
  | ok found =>
    simp only [bind, Except.bind, Schema.enumerationsOnly, Except.ok.injEq]
    split_ifs with h
    · simp only [List.all_eq_true] at h
      constructor
      · rintro ⟨⟩
        exact ⟨rfl, h⟩
      · rintro ⟨rfl, -⟩
        rfl
    · simp only [false_iff, not_and]
      rintro rfl hall
      exact h (List.all_eq_true.mpr hall)

theorem enumerations_eq_ok_iff : t.enumerations path = .ok s ↔ t.HoldsEnumerations path s := by
  rw [HoldsEnumerations, ← schema_eq_ok_iff]
  exact enumerationsWith_eq_ok_iff

theorem declarations_foldl (parts : List Schema) (s : Schema) :
    (parts.foldl (· ++ ·) s).declarations =
      s.declarations ++ parts.flatMap Schema.declarations := by
  induction parts generalizing s with
  | nil => simp
  | cons part parts ih =>
    rw [List.foldl_cons, ih, List.flatMap_cons, ← List.append_assoc]
    rfl

theorem schemas_eq_ok_iff {schemas enumerations : List Path} :
    t.schemas schemas enumerations = .ok s ↔ t.HoldsSchemas schemas enumerations s := by
  have hfold (parts : List Schema) : parts.foldl (· ++ ·) {} = s ↔
      s.declarations = parts.flatMap Schema.declarations := by
    have h := declarations_foldl parts {}
    rw [List.nil_append] at h
    constructor
    · rintro rfl
      exact h
    · intro hs
      exact congrArg Schema.mk (h.trans hs.symm)
  have hok : t.schemas schemas enumerations = .ok s ↔ ∃ found others,
      enumerations.mapM t.enumerations = .ok found ∧ schemas.mapM t.schema = .ok others ∧
        (found ++ others).foldl (· ++ ·) {} = s := by
    rw [Tree.schemas]
    cases enumerations.mapM t.enumerations with
    | error e => simp [bind, Except.bind]
    | ok found =>
      cases schemas.mapM t.schema <;> simp [bind, Except.bind, pure, Except.pure]
  simp only [hok, HoldsSchemas, mapM_eq_ok_iff, enumerations_eq_ok_iff, schema_eq_ok_iff, hfold]

end Files.Tree

namespace Command

open Files

/-! ## Reports -/

inductive Finds (t : Tree) (schemas enumerations : List Path) (root : String)
    (lists : ListElements) : Report → Prop
  | load {e : LoadError} (h : t.schemas schemas enumerations = .error e)
    (hdecodable : e ≠ .undecodable) (hvalue : ∀ f, e ≠ .badValue f) :
    Finds t schemas enumerations root lists (.load e)
  | grammar {s : Schema} {e : GrammarError} (hs : t.HoldsSchemas schemas enumerations s)
    (h : s.writableGrammar root lists = .error e) :
    Finds t schemas enumerations root lists (.grammar e)

inductive Reports (directory : Path) (t : Tree) : Command → Report → Prop
  | compile {schema enumerations root output lists report}
    (h : Finds t [schema] enumerations root lists report) :
    Reports directory t (compile schema enumerations root output lists) report
  | check {schema enumerations root report} (h : Finds t [schema] enumerations root .all report) :
    Reports directory t (check schema enumerations root) report
  | manifest {manifest : Path} {e : ManifestError}
    (h : t.manifest (directory.resolve manifest) = .error e) (hdecodable : e ≠ .undecodable)
    (hvalue : ∀ f, e ≠ .badValue f) (htable : e ≠ .notTable) :
    Reports directory t (build manifest) (.manifest e)
  | build {manifest m report} (hm : t.HoldsManifest (directory.resolve manifest) m)
    (h : Finds t m.schemaPaths m.enumerationPaths m.root m.lists report) :
    Reports directory t (build manifest) report

theorem ofLoadError_eq_error_iff {e : LoadError} {report : Report} :
    Stop.ofLoadError e = .error report ↔
      report = .load e ∧ e ≠ .undecodable ∧ ∀ f, e ≠ .badValue f := by
  cases e <;> simp [Stop.ofLoadError, eq_comm]

theorem ofManifestError_eq_error_iff {e : ManifestError} {report : Report} :
    Stop.ofManifestError e = .error report ↔ report = .manifest e ∧
      e ≠ .undecodable ∧ (∀ f, e ≠ .badValue f) ∧ e ≠ .notTable := by
  cases e <;> simp [Stop.ofManifestError, eq_comm]

section Parts

variable {t : Tree} {schemas enumerations : List Path} {root : String} {lists : ListElements}
  {report : Report} {text : String}

theorem loaded_eq_ok_iff {s : Schema} :
    loaded t schemas enumerations = .ok s ↔ t.HoldsSchemas schemas enumerations s := by
  rw [loaded, ← Tree.schemas_eq_ok_iff]
  cases t.schemas schemas enumerations <;> simp [Except.mapError]

theorem fileGrammar_eq_ok_iff {g : Grammar} :
    fileGrammar t schemas enumerations root lists = .ok g ↔
      ∃ s, t.HoldsSchemas schemas enumerations s ∧ s.writableGrammar root lists = .ok g := by
  simp only [fileGrammar, ← loaded_eq_ok_iff]
  cases loaded t schemas enumerations with
  | error stop => simp [Except.bind]
  | ok s =>
    simp only [Except.bind, Except.ok.injEq, exists_eq_left']
    cases s.writableGrammar root lists <;> simp [Except.mapError]

theorem fileGrammar_eq_error_iff :
    fileGrammar t schemas enumerations root lists = .error (.error report) ↔
      Finds t schemas enumerations root lists report := by
  rw [fileGrammar]
  cases hs : t.schemas schemas enumerations with
  | error e =>
    rw [loaded, hs]
    simp only [Except.mapError, Except.bind, Except.error.injEq, ofLoadError_eq_error_iff]
    constructor
    · rintro ⟨rfl, hdecodable, hvalue⟩
      exact .load hs hdecodable hvalue
    · rintro (⟨he, hdecodable, hvalue⟩ | ⟨hs', -⟩)
      · obtain rfl := Except.error.inj (hs.symm.trans he)
        exact ⟨rfl, hdecodable, hvalue⟩
      · rw [← Tree.schemas_eq_ok_iff, hs] at hs'
        cases hs'
  | ok s =>
    rw [loaded, hs]
    dsimp only [Except.mapError, Except.bind]
    constructor
    · intro h
      cases hg : s.writableGrammar root lists with
      | ok g =>
        rw [hg] at h
        cases h
      | error e =>
        rw [hg] at h
        cases h
        exact .grammar (Tree.schemas_eq_ok_iff.mp hs) hg
    · rintro (⟨he, -, -⟩ | ⟨hs', hg⟩)
      · rw [hs] at he
        cases he
      · obtain rfl := Except.ok.inj (hs.symm.trans (Tree.schemas_eq_ok_iff.mpr hs'))
        rw [hg]
        rfl

end Parts

/-! ## Deliveries -/

/-- What stands where a text was wanted, and how the command that made it ends. -/
inductive Delivers (text : String) (t : Tree) : Option Path → Ending × Tree → Prop
  | shown : Delivers text t none (⟨0, text, ""⟩, t)
  | written {path : Path} {place : List String} {t' : Tree} (notice : String)
      (h : t.Writes path text.toUTF8 place t') : Delivers text t (some path) (⟨0, notice, ""⟩, t')

def Makes (t : Tree) (schemas enumerations : List Path) (root : String) (lists : ListElements)
    (output : Option Path) (result : Ending × Tree) : Prop :=
  ∃ s text, t.HoldsSchemas schemas enumerations s ∧ s.grammarText root lists = .ok text ∧
    Delivers text t output result

/-- What a command that comes to its end has done to a tree of files. -/
inductive Does (directory : Path) (t : Tree) : Command → Ending × Tree → Prop
  | compile {schema enumerations root output lists result}
    (h : Makes t [schema] enumerations root lists output result) :
    Does directory t (compile schema enumerations root output lists) result
  | check {schema enumerations root s g shown} (hs : t.HoldsSchemas [schema] enumerations s)
    (h : s.writableGrammar root .all = .ok g) :
    Does directory t (check schema enumerations root) (⟨0, shown, ""⟩, t)
  | build {manifest m result} (hm : t.HoldsManifest (directory.resolve manifest) m)
    (h : Makes t m.schemaPaths m.enumerationPaths m.root m.lists m.outputPath result) :
    Does directory t (build manifest) result
  | version : Does directory t version (⟨0, versionText, ""⟩, t)
  | help : Does directory t help (⟨0, usage, ""⟩, t)

section Deliveries

variable {t : Tree} {schemas enumerations : List Path} {root : String} {lists : ListElements}
  {output : Option Path} {done : Path → Except Stop String} {report : Report}

theorem notice_ne_report (text : String) : notice text ≠ .error (.error report) := by
  rw [notice]
  cases Text.unstyled ("[green]" ++ text ++ "[/green]") <;> simp

theorem delivered_ne_report (hdone : ∀ path, done path ≠ .error (.error report)) (text : String) :
    (delivered t text output done).1 ≠ .error (.error report) := by
  cases output with
  | none =>
    rw [delivered]
    split_ifs <;> simp
  | some path =>
    rw [delivered]
    cases t.write path (if Text.holdsHalf text.toList then "" else text).toUTF8 with
    | error f => simp
    | ok t' =>
      dsimp only
      split_ifs
      · simp
      · cases hpath : done path with
        | error stop => simpa [hpath, Except.bind] using hdone path
        | ok line => exact notice_ne_report line

theorem delivers_of_delivered {text shown : String}
    (h : (delivered t text output done).1 = .ok shown) :
    Delivers text t output (⟨0, shown, ""⟩, (delivered t text output done).2) := by
  cases output with
  | none =>
    rw [delivered] at h ⊢
    split_ifs at h
    obtain rfl := Except.ok.inj h
    exact .shown
  | some path =>
    rw [delivered] at h ⊢
    cases hwrite : t.write path (if Text.holdsHalf text.toList then "" else text).toUTF8 with
    | error f =>
      rw [hwrite] at h
      cases h
    | ok t' =>
      rw [hwrite] at h
      dsimp only at h ⊢
      split_ifs at h hwrite
      obtain ⟨place, hplace⟩ := Tree.exists_writes_of_write hwrite
      exact .written shown hplace

theorem compiled_eq_report_iff (hdone : ∀ path, done path ≠ .error (.error report)) :
    (compiled t schemas enumerations root lists output done).1 = .error (.error report) ↔
      Finds t schemas enumerations root lists report := by
  rw [← fileGrammar_eq_error_iff, compiled]
  cases hg : fileGrammar t schemas enumerations root lists with
  | error stop => simp
  | ok g =>
    -- No report is about a delivery.
    exact iff_of_false (delivered_ne_report hdone g.lines) (by simp)

theorem compiled_of_finds (h : Finds t schemas enumerations root lists report) :
    compiled t schemas enumerations root lists output done = (.error (.error report), t) := by
  rw [compiled, fileGrammar_eq_error_iff.mpr h]

theorem makes_of_compiled {shown : String}
    (h : (compiled t schemas enumerations root lists output done).1 = .ok shown) :
    Makes t schemas enumerations root lists output
      (⟨0, shown, ""⟩, (compiled t schemas enumerations root lists output done).2) := by
  rw [compiled] at h ⊢
  cases hg : fileGrammar t schemas enumerations root lists with
  | error stop =>
    rw [hg] at h
    cases h
  | ok g =>
    rw [hg] at h
    obtain ⟨s, hs, hwritable⟩ := fileGrammar_eq_ok_iff.mp hg
    refine ⟨s, g.lines, hs, ?_, delivers_of_delivered h⟩
    rw [s.grammarText_eq_map, hwritable]
    rfl

end Deliveries

/-! ## Whole commands -/

section Commands

variable (directory : Path) (command : Command) (t : Tree) {report : Report}

/-- A report leaves the tree as it is, at whatever stage it is found. -/
theorem after_run_of_reports {command : Command} (h : command.Reports directory t report) :
    t.after (command.run directory) = (.error (.error report), t) := by
  cases h with
  | compile h => rw [after_compile, compiled_of_finds h]
  | check h =>
    rw [after_check, fileGrammar_eq_error_iff.mpr h]
    rfl
  | manifest h hdecodable hvalue htable =>
    rw [after_build, h, Except.mapError,
      ofManifestError_eq_error_iff.mpr ⟨rfl, hdecodable, hvalue, htable⟩]
  | build hm h =>
    rw [after_build, Tree.manifest_eq_ok_iff.mpr hm]
    exact compiled_of_finds h

theorem reports_of_after_run
    (h : (t.after (command.run directory)).1 = .error (.error report)) :
    command.Reports directory t report := by
  cases command with
  | compile schema enumerations root output lists =>
    rw [after_compile, compiled_eq_report_iff (by simp)] at h
    exact .compile h
  | check schema enumerations root =>
    rw [after_check] at h
    refine .check (fileGrammar_eq_error_iff.mp ?_)
    cases hg : fileGrammar t [schema] enumerations root .all with
    | error stop =>
      rw [hg] at h
      exact congrArg Except.error (Except.error.inj h)
    | ok g =>
      rw [hg] at h
      cases h
  | build manifest =>
    rw [after_build] at h
    cases hm : t.manifest (directory.resolve manifest) with
    | error e =>
      rw [hm] at h
      obtain ⟨rfl, hdecodable, hvalue, htable⟩ :=
        ofManifestError_eq_error_iff.mp (Except.error.inj h)
      exact .manifest hm hdecodable hvalue htable
    | ok m =>
      rw [hm] at h
      refine .build (Tree.manifest_eq_ok_iff.mp hm) ((compiled_eq_report_iff ?_).mp h)
      intro path
      split_ifs <;> simp
  | version => cases h
  | help => cases h

theorem does_of_after_run {shown : String} (h : (t.after (command.run directory)).1 = .ok shown) :
    command.Does directory t (⟨0, shown, ""⟩, (t.after (command.run directory)).2) := by
  cases command with
  | compile schema enumerations root output lists =>
    rw [after_compile] at h ⊢
    exact .compile (makes_of_compiled h)
  | check schema enumerations root =>
    rw [after_check] at h ⊢
    cases hg : fileGrammar t [schema] enumerations root .all with
    | error stop =>
      rw [hg] at h
      cases h
    | ok g =>
      obtain ⟨s, hs, hwritable⟩ := fileGrammar_eq_ok_iff.mp hg
      exact .check hs hwritable
  | build manifest =>
    rw [after_build] at h ⊢
    cases hm : t.manifest (directory.resolve manifest) with
    | error e =>
      rw [hm] at h
      cases h
    | ok m =>
      rw [hm] at h
      exact .build (Tree.manifest_eq_ok_iff.mp hm) (makes_of_compiled h)
  | version =>
    cases h
    exact .version
  | help =>
    cases h
    exact .help

/-- What is reported is all that a command that reports it says, and no file or directory has
changed. A command that ends with status 0 has done what it is for, and nothing else. -/
theorem all_or_nothing :
    (∀ report, (t.after (command.run directory)).1 = .error (.error report) ↔
      command.Reports directory t report) ∧
    (∀ report, command.Reports directory t report →
      command.onTree directory t = (⟨1, "", "Error: " ++ report.text ++ "\n"⟩, t)) ∧
    ((command.onTree directory t).1.status = 0 →
      command.Does directory t (command.onTree directory t)) := by
  refine ⟨fun report => ⟨reports_of_after_run directory command t, fun h => ?_⟩,
    fun report h => ?_, ?_⟩
  · rw [after_run_of_reports directory t h]
  · rw [onTree_eq, after_run_of_reports directory t h]
    rfl
  · rw [onTree_eq]
    intro hstatus
    cases hresult : (t.after (command.run directory)).1 with
    | error stop =>
      rw [hresult] at hstatus
      cases hstatus
    | ok shown => exact does_of_after_run directory command t hresult

end Commands

theorem exists_ok_of_isOk {ε α : Type} {x : Except ε α} (h : x.isOk = true) : ∃ a, x = .ok a := by
  cases x with
  | error e => cases h
  | ok a => exact ⟨a, rfl⟩

/-- A schema whose grammar can be written gives the grammar of the files that hold it. -/
theorem exists_fileGrammar {t : Tree} {schemas enumerations : List Path} {root : String}
    {lists : ListElements} {s : Schema} (hs : t.HoldsSchemas schemas enumerations s)
    (h : (s.writableGrammar root lists).isOk = true) :
    ∃ g, fileGrammar t schemas enumerations root lists = .ok g ∧
      s.grammarText root lists = .ok g.lines := by
  obtain ⟨g, hg⟩ := exists_ok_of_isOk h
  refine ⟨g, fileGrammar_eq_ok_iff.mpr ⟨s, hs, hg⟩, ?_⟩
  rw [Schema.grammarText_eq_map, hg]
  rfl

def single : Schema := ⟨[.record ⟨"A", [], [], some ⟨"a.ts", 1, 1⟩⟩]⟩

theorem not_holdsHalf_single : ¬ single.HoldsHalf := by
  simp [Schema.HoldsHalf, single, Declaration.quotedTexts]

def singleTree : Tree where
  files := [(["home", "a.ts"], "interface A\x7b\x7d".toUTF8)]
  directories := []
  workingDirectory := ["home"]

theorem schemas_singleTree : singleTree.schemas [Path.ofString "a.ts"] [] = .ok single := by
  decide +kernel

theorem exists_fileGrammar_singleTree : ∃ g,
    fileGrammar singleTree [Path.ofString "a.ts"] [] "A" .all = .ok g ∧
      ¬ Text.holdsHalf g.lines.toList = true := by
  obtain ⟨g, hg, htext⟩ : ∃ g,
      fileGrammar singleTree [Path.ofString "a.ts"] [] "A" .all = .ok g ∧
        single.grammarText "A" .all = .ok g.lines :=
    exists_fileGrammar (Tree.schemas_eq_ok_iff.mp schemas_singleTree) (by decide +kernel)
  exact ⟨g, hg, (Schema.holdsHalf_grammarText_iff htext).not.mpr not_holdsHalf_single⟩

theorem reports_singleTree : Reports (Path.ofString "/home") singleTree
    (compile (Path.ofString "a.ts") [] "B" (some (Path.ofString "out/a.gbnf")) .all)
    (.grammar (.compile (.unknownRoot "B" ["A"]))) := by
  have hnames : Text.sortedNames ["A"] = ["A"] := by simp [Text.sortedNames, List.eraseDups_cons]
  refine .compile (.grammar (Tree.schemas_eq_ok_iff.mp schemas_singleTree) ?_)
  rw [← hnames]
  rfl

theorem status_shown_singleTree : ((compile (Path.ofString "a.ts") [] "A" none .all).onTree
    (Path.ofString "/home") singleTree).1.status = 0 := by
  obtain ⟨g, hg, hwhole⟩ := exists_fileGrammar_singleTree
  rw [onTree_eq, after_compile, compiled, hg]
  dsimp only
  rw [delivered, if_neg hwhole]
  rfl

theorem status_written_singleTree : ((compile (Path.ofString "a.ts") [] "A"
    (some (Path.ofString "out/a.gbnf")) .all).onTree (Path.ofString "/home")
      singleTree).1.status = 0 := by
  obtain ⟨g, hg, hwhole⟩ := exists_fileGrammar_singleTree
  obtain ⟨t, ht⟩ : ∃ t, singleTree.write (Path.ofString "out/a.gbnf") g.lines.toUTF8 = .ok t :=
    exists_ok_of_isOk ((Tree.isOk_write _ _ _ "".toUTF8).trans (by decide +kernel))
  obtain ⟨line, hline⟩ : ∃ line, notice (toString "Wrote grammar for " ++ toString "A" ++
      toString " to " ++ toString (Path.ofString "out/a.gbnf")) = .ok line :=
    exists_ok_of_isOk (by decide +kernel)
  rw [onTree_eq, after_compile, compiled, hg]
  dsimp only
  rw [delivered, if_neg hwhole, if_neg hwhole, ht]
  dsimp only [Except.bind]
  rw [hline]
  rfl

/-- With a root that is not there no file is made. With the right one the text is shown and nothing
changes, or a file with the text is made in a directory that was not there. -/
theorem singleTree_all_or_nothing :
    (compile (Path.ofString "a.ts") [] "B" (some (Path.ofString "out/a.gbnf")) .all).onTree
        (Path.ofString "/home") singleTree =
      (⟨1, "", "Error: Root type 'B' not found. Available interfaces: ['A']\n"⟩, singleTree) ∧
    (∃ s text, singleTree.HoldsSchemas [Path.ofString "a.ts"] [] s ∧
      s.grammarText "A" .all = .ok text ∧
      (compile (Path.ofString "a.ts") [] "A" none .all).onTree (Path.ofString "/home") singleTree =
        (⟨0, text, ""⟩, singleTree)) ∧
    singleTree.hasDirectory (Path.ofString "out") = false ∧
    ∃ s text notice place t', singleTree.HoldsSchemas [Path.ofString "a.ts"] [] s ∧
      s.grammarText "A" .all = .ok text ∧
      singleTree.Writes (Path.ofString "out/a.gbnf") text.toUTF8 place t' ∧
      (compile (Path.ofString "a.ts") [] "A" (some (Path.ofString "out/a.gbnf")) .all).onTree
        (Path.ofString "/home") singleTree = (⟨0, notice, ""⟩, t') := by
  have hshown := status_shown_singleTree
  have hwritten := status_written_singleTree
  refine ⟨(all_or_nothing (Path.ofString "/home") _ singleTree).2.1 _ reports_singleTree, ?_, rfl, ?_⟩
  · generalize hresult : (compile (Path.ofString "a.ts") [] "A" none .all).onTree
      (Path.ofString "/home") singleTree = result at hshown ⊢
    have hdoes := (all_or_nothing (Path.ofString "/home")
      (compile (Path.ofString "a.ts") [] "A" none .all) singleTree).2.2 (hresult ▸ hshown)
    rw [hresult] at hdoes
    obtain ⟨s, text, hs, htext, hdelivers⟩ := hdoes
    cases hdelivers
    exact ⟨s, text, hs, htext, rfl⟩
  · generalize hresult : (compile (Path.ofString "a.ts") [] "A"
      (some (Path.ofString "out/a.gbnf")) .all).onTree (Path.ofString "/home") singleTree =
        result at hwritten ⊢
    have hdoes := (all_or_nothing (Path.ofString "/home") (compile (Path.ofString "a.ts") [] "A"
      (some (Path.ofString "out/a.gbnf")) .all) singleTree).2.2 (hresult ▸ hwritten)
    rw [hresult] at hdoes
    obtain ⟨s, text, hs, htext, hdelivers⟩ := hdoes
    cases hdelivers with
    | written line hwrites => exact ⟨s, text, line, _, _, hs, htext, hwrites, rfl⟩

end Command

end SchemaGrammar
