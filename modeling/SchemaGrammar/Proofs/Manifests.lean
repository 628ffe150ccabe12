import SchemaGrammar.Command.Run
import SchemaGrammar.Proofs.AlikeOutcomes

/-!
# What manifests say

A document is a manifest exactly if its sections give the root, the files, the output and the mode
of lists. Any other document is reported as no manifest, but one where the first thing wrong is that
a section is no table, or a mode that no message can show.
-/
namespace SchemaGrammar

/-! ## Errors that escape -/

section Escapes

variable {α β ε ε' : Type} {reported : ε → Prop} {r : Except ε α}

/-- The result is an error that is not reported. -/
def Escapes (reported : ε → Prop) (r : Except ε α) : Prop := ∃ e, r = .error e ∧ ¬ reported e

@[simp] theorem not_escapes_ok (a : α) : ¬ Escapes reported (.ok a) := nofun

@[simp] theorem escapes_error {e : ε} :
    Escapes reported (.error e : Except ε α) ↔ ¬ reported e := by
  simp [Escapes]

theorem not_escapes_of_reported {e : ε} (h : reported e) :
    ¬ Escapes reported (.error e : Except ε α) := fun hescapes => escapes_error.mp hescapes h

theorem escapes_bind {f : α → Except ε β} : Escapes reported (r.bind f) ↔
    Escapes reported r ∨ ∃ a, r = .ok a ∧ Escapes reported (f a) := by
  cases r <;> simp [Except.bind]

theorem escapes_mapError {f : ε → ε'} {reported : ε' → Prop} :
    Escapes reported (r.mapError f) ↔ ∃ e, r = .error e ∧ ¬ reported (f e) := by
  cases r <;> simp [Except.mapError]

end Escapes

def ManifestError.IsReported (e : ManifestError) : Prop :=
  Command.Stop.ofManifestError e = .error (.manifest e)

theorem ListElements.ofName?_eq_some_iff {name : String} {lists : ListElements} :
    ofName? name = some lists ↔ name = lists.name := by
  constructor
  · intro h
    have hname := List.find?_some h
    simpa [eq_comm] using hname
  · rintro rfl
    cases lists <;> rfl

namespace Manifest

open Document (Value)

variable {path : Path} {document fields : List (String × Value)} {name : String}

/-! ## Sections -/

/-- The section is a table, or is left out. -/
def IsTable (document : List (String × Value)) (name : String) : Prop :=
  ∀ v, value? document name = some v → ∃ fields, v = .object fields

def settings (document : List (String × Value)) (name : String) : List (String × Value) :=
  match value? document name with
  | some (.object fields) => fields
  | _ => []

def setting? (document : List (String × Value)) (name key : String) : Option Value :=
  value? (settings document name) key

theorem sectionFields_cases (document : List (String × Value)) (name : String) :
    IsTable document name ∧ sectionFields document name = .ok (settings document name) ∨
      ¬ IsTable document name ∧ sectionFields document name = .error .notTable := by
  unfold IsTable sectionFields settings
  split
  · next h => simp [h]
  · next fields h => simp [h]
  · next v hnot h => simpa [h] using hnot

section OfSection

variable {α : Type} {f : List (String × Value) → Except ManifestError α}

def ofSection (document : List (String × Value)) (name : String)
    (f : List (String × Value) → Except ManifestError α) : Except ManifestError α :=
  (sectionFields document name).bind f

theorem ofSection_eq_ok_iff {a : α} : ofSection document name f = .ok a ↔
    IsTable document name ∧ f (settings document name) = .ok a := by
  unfold ofSection
  obtain ⟨htable, heq⟩ | ⟨hnot, heq⟩ := sectionFields_cases document name
  · simp [htable, heq, Except.bind]
  · simp [hnot, heq, Except.bind]

theorem escapes_ofSection : Escapes ManifestError.IsReported (ofSection document name f) ↔
    ¬ IsTable document name ∨
      IsTable document name ∧ Escapes ManifestError.IsReported (f (settings document name)) := by
  unfold ofSection
  obtain ⟨htable, heq⟩ | ⟨hnot, heq⟩ := sectionFields_cases document name
  · simp [htable, heq, Except.bind]
  · simp only [hnot, heq, Except.bind, escapes_error, not_false_eq_true, true_or, iff_true]
    nofun

end OfSection

/-! ## Settings -/

/-- The strings that a value lists: one string, or an array of strings; a value left out lists none.
-/
inductive Lists : Option Value → List String → Prop
  | nothing : Lists none []
  | string (s : String) : Lists (some (.string s)) [s]
  | array (ss : List String) : Lists (some (.array (ss.map .string))) ss

theorem strings?_eq_some_iff {vs : List Value} {ss : List String} :
    strings? vs = some ss ↔ vs = ss.map .string := by
  induction vs generalizing ss with
  | nil => cases ss <;> simp [strings?]
  | cons v vs ih => cases v <;> cases ss <;> simp [strings?, ih, and_comm]

theorem paths_eq_ok_iff {key inSection : String} {ss : List String} :
    paths path fields key inSection = .ok ss ↔ Lists (value? fields inSection) ss := by
  unfold paths
  generalize value? fields inSection = found
  constructor
  · rcases found with _ | (_ | _ | _ | _ | _ | s | vs | _) <;> intro h
    case none => cases h; exact .nothing
    case some.string => cases h; exact .string s
    case some.array =>
      dsimp only at h
      split at h
      · next ps hps =>
        cases h
        rw [strings?_eq_some_iff.mp hps]
        exact .array ss
      · cases h
    all_goals cases h
  · rintro (_ | s | _)
    · rfl
    · rfl
    · simp [strings?_eq_some_iff.mpr rfl]

theorem not_escapes_paths {key inSection : String} :
    ¬ Escapes ManifestError.IsReported (paths path fields key inSection) := by
  unfold paths
  dsimp only
  split
  · exact not_escapes_ok _
  · exact not_escapes_of_reported rfl

def rootOf (path : Path) (project : List (String × Value)) : Except ManifestError String :=
  match value? project "root" with
  | some (.string root) => if root = "" then .error (.noRoot path) else .ok root
  | _ => .error (.noRoot path)

theorem rootOf_eq_ok_iff {root : String} : rootOf path fields = .ok root ↔
    value? fields "root" = some (.string root) ∧ root ≠ "" := by
  unfold rootOf
  split
  · next found h =>
    by_cases hfound : found = ""
    · simp +contextual [h, hfound, eq_comm]
    · simp only [hfound, h, if_false, Except.ok.injEq, Option.some.injEq, Value.string.injEq,
        iff_self_and]
      rintro rfl
      exact hfound
  · next hnot =>
    simp only [reduceCtorEq, false_iff, not_and]
    exact fun h => (hnot root h).elim

theorem not_escapes_rootOf : ¬ Escapes ManifestError.IsReported (rootOf path fields) := by
  unfold rootOf
  split
  · split_ifs
    · exact not_escapes_of_reported rfl
    · exact not_escapes_ok _
  · exact not_escapes_of_reported rfl

def filesOf (path : Path) (schema : List (String × Value)) :
    Except ManifestError (List String × List String) :=
  (paths path schema "schema" "paths").bind fun schemas =>
  (paths path schema "schema" "enums").bind fun enumerations =>
    if schemas = [] then .error (.noSchemas path) else .ok (schemas, enumerations)

theorem filesOf_eq_ok_iff {files : List String × List String} :
    filesOf path fields = .ok files ↔
      (Lists (value? fields "paths") files.1 ∧ files.1 ≠ []) ∧
        Lists (value? fields "enums") files.2 := by
  obtain ⟨schemas, enumerations⟩ := files
  simp only [filesOf, bind_eq_ok_iff, paths_eq_ok_iff]
  constructor
  · rintro ⟨schemas, hschemas, enumerations, henumerations, h⟩
    split_ifs at h with hne
    cases h
    exact ⟨⟨hschemas, hne⟩, henumerations⟩
  · rintro ⟨⟨hschemas, hne⟩, henumerations⟩
    exact ⟨schemas, hschemas, enumerations, henumerations, if_neg hne⟩

theorem not_escapes_filesOf : ¬ Escapes ManifestError.IsReported (filesOf path fields) := by
  simp only [filesOf, escapes_bind, not_escapes_paths, false_or, not_exists, not_and]
  intro schemas _ enumerations _
  split_ifs
  · exact not_escapes_of_reported rfl
  · exact not_escapes_ok _

def outputOf (path : Path) (output : List (String × Value)) :
    Except ManifestError (Option String) :=
  match value? output "path" with
  | none => .ok none
  | some (.string s) => .ok (some s)
  | some _ => .error (.badOutput path)

theorem outputOf_eq_ok_iff {file : Option String} :
    outputOf path fields = .ok file ↔ value? fields "path" = file.map .string := by
  unfold outputOf
  split
  · next h => cases file <;> simp [h]
  · next found h => cases file <;> simp [h]
  · next v hnot h =>
    simp only [h, reduceCtorEq, false_iff]
    cases file with
    | none => nofun
    | some file => exact fun hv => hnot file (Option.some.inj hv)

theorem not_escapes_outputOf : ¬ Escapes ManifestError.IsReported (outputOf path fields) := by
  unfold outputOf
  split
  · exact not_escapes_ok _
  · exact not_escapes_ok _
  · exact not_escapes_of_reported rfl

def listsOf (path : Path) (compiler : List (String × Value)) :
    Except ManifestError ListElements :=
  match value? compiler "list_elements" with
  | none => .ok .all
  | some v =>
    match v with
    | .string s =>
      match ListElements.ofName? s with
      | some lists => .ok lists
      | none => .error (.ofLists path v)
    | _ => .error (.ofLists path v)

theorem listsOf_eq_ok_iff {lists : ListElements} : listsOf path fields = .ok lists ↔
    (value? fields "list_elements").getD (.string "all") = .string lists.name := by
  unfold listsOf
  split
  · next h => cases lists <;> simp [h, ListElements.name]
  · next v h =>
    rw [h, Option.getD_some]
    split
    · next mode =>
      rw [Value.string.injEq, ← ListElements.ofName?_eq_some_iff]
      split
      · next found hfound => simp [hfound]
      · next hnone => simp [hnone]
    · next hnot =>
      simp only [reduceCtorEq, false_iff]
      exact hnot _

theorem escapes_ofLists {α : Type} {v : Value} :
    Escapes ManifestError.IsReported (.error (.ofLists path v) : Except ManifestError α) ↔
      ¬ v.canShow := by
  rw [escapes_error, not_iff_not, ManifestError.ofLists]
  split_ifs with h
  · exact iff_of_true rfl h
  · exact iff_of_false nofun h

theorem escapes_listsOf : Escapes ManifestError.IsReported (listsOf path fields) ↔
    ∃ v, value? fields "list_elements" = some v ∧ ¬ v.canShow := by
  unfold listsOf
  split
  · next h => simp [h]
  · next v h =>
    simp only [h, Option.some.injEq, exists_eq_left']
    split
    · next mode =>
      have hshow : (Value.string mode).canShow := rfl
      split
      · simp [hshow]
      · rw [escapes_ofLists]
    · rw [escapes_ofLists]

/-- A manifest is made section by section. -/
theorem ofDocument_eq (path : Path) (document : List (String × Value)) :
    ofDocument path document =
      ofSection document "project" fun project =>
      (rootOf path project).bind fun root =>
      ofSection document "schema" fun schema =>
      (filesOf path schema).bind fun files =>
      ofSection document "output" fun output =>
      (outputOf path output).bind fun output =>
      ofSection document "compiler" fun compiler =>
      (listsOf path compiler).bind fun lists =>
        .ok { name := (value? project "name").getD (.string "unnamed"), root, schemas := files.1,
              enumerations := files.2, output, lists, directory := path.parent } := by
  rw [ofDocument]
  dsimp only [ofSection, rootOf, filesOf, outputOf, listsOf, bind, Except.bind, pure, Except.pure,
    throw, throwThe, MonadExceptOf.throw]
  cases sectionFields document "project" with
  | error e => rfl
  | ok project =>
  dsimp only
  rcases value? project "root" with _ | (_ | _ | _ | _ | _ | root | _ | _) <;> try rfl
  dsimp only
  split
  · rfl
  cases sectionFields document "schema" with
  | error e => rfl
  | ok schema =>
  dsimp only
  cases paths path schema "schema" "paths" with
  | error e => rfl
  | ok schemas =>
  cases paths path schema "schema" "enums" with
  | error e => rfl
  | ok enumerations =>
  dsimp only
  split
  · rfl
  cases sectionFields document "output" with
  | error e => rfl
  | ok output =>
  dsimp only
  rcases value? output "path" with _ | (_ | _ | _ | _ | _ | file | _ | _) <;> try rfl
  all_goals
    dsimp only
    cases sectionFields document "compiler" with
    | error e => rfl
    | ok compiler =>
    dsimp only
    rcases value? compiler "list_elements" with _ | (_ | _ | _ | _ | _ | mode | _ | _) <;> try rfl
    dsimp only
    cases ListElements.ofName? mode <;> rfl

/-! ## Documents -/

structure Fits (path : Path) (document : List (String × Value)) (m : Manifest) : Prop where
  project : IsTable document "project"
  schema : IsTable document "schema"
  output : IsTable document "output"
  compiler : IsTable document "compiler"
  name_eq : m.name = (setting? document "project" "name").getD (.string "unnamed")
  root_eq : setting? document "project" "root" = some (.string m.root)
  root_ne : m.root ≠ ""
  schemas : Lists (setting? document "schema" "paths") m.schemas
  schemas_ne : m.schemas ≠ []
  enumerations : Lists (setting? document "schema" "enums") m.enumerations
  output_eq : setting? document "output" "path" = m.output.map .string
  lists_eq : (setting? document "compiler" "list_elements").getD (.string "all") =
    .string m.lists.name
  directory_eq : m.directory = path.parent

/-- The documents that are manifests are those that give every part of one. -/
theorem ofDocument_eq_ok_iff {m : Manifest} :
    ofDocument path document = .ok m ↔ m.Fits path document := by
  simp only [ofDocument_eq, bind_eq_ok_iff, ofSection_eq_ok_iff, rootOf_eq_ok_iff,
    filesOf_eq_ok_iff, outputOf_eq_ok_iff, listsOf_eq_ok_iff]
  constructor
  · rintro ⟨hproject, root, ⟨hroot, hrootne⟩, hschema, files,
      ⟨⟨hschemas, hschemasne⟩, henumerations⟩, houtput, file, hfile, hcompiler, lists, hlists, hm⟩
    cases hm
    exact
      { project := hproject, schema := hschema, output := houtput, compiler := hcompiler
        name_eq := rfl, directory_eq := rfl, root_eq := hroot, root_ne := hrootne
        schemas := hschemas, schemas_ne := hschemasne, enumerations := henumerations
        output_eq := hfile, lists_eq := hlists }
  · intro h
    refine ⟨h.project, m.root, ⟨h.root_eq, h.root_ne⟩, h.schema, (m.schemas, m.enumerations),
      ⟨⟨h.schemas, h.schemas_ne⟩, h.enumerations⟩, h.output, m.output, h.output_eq, h.compiler,
      m.lists, h.lists_eq, ?_⟩
    rw [← h.directory_eq, ← setting?, ← h.name_eq]

def NamesRoot (document : List (String × Value)) : Prop :=
  IsTable document "project" ∧
    ∃ root, setting? document "project" "root" = some (.string root) ∧ root ≠ ""

def ListsFiles (document : List (String × Value)) : Prop :=
  IsTable document "schema" ∧
    (∃ schemas, Lists (setting? document "schema" "paths") schemas ∧ schemas ≠ []) ∧
    ∃ enumerations, Lists (setting? document "schema" "enums") enumerations

def NamesOutput (document : List (String × Value)) : Prop :=
  IsTable document "output" ∧
    ∃ file : Option String, setting? document "output" "path" = file.map .string

/-- The first thing wrong with the document is a section that is no table, or a mode of list
elements that no message can show. -/
inductive BreaksOff (document : List (String × Value)) : Prop
  | project (h : ¬ IsTable document "project")
  | schema (hroot : NamesRoot document) (h : ¬ IsTable document "schema")
  | output (hroot : NamesRoot document) (hfiles : ListsFiles document)
      (h : ¬ IsTable document "output")
  | compiler (hroot : NamesRoot document) (hfiles : ListsFiles document)
      (houtput : NamesOutput document) (h : ¬ IsTable document "compiler")
  | lists (hroot : NamesRoot document) (hfiles : ListsFiles document)
      (houtput : NamesOutput document) (hcompiler : IsTable document "compiler") {v : Value}
      (hv : setting? document "compiler" "list_elements" = some v) (h : ¬ v.canShow)

/-- An error of a document escapes exactly if the document breaks off. -/
theorem escapes_ofDocument_iff :
    Escapes ManifestError.IsReported (ofDocument path document) ↔ BreaksOff document := by
  -- The sections behind one do not depend on what is read from it, only on whether that is there.
  simp only [ofDocument_eq, escapes_bind, escapes_ofSection, not_escapes_rootOf, rootOf_eq_ok_iff,
    not_escapes_filesOf, filesOf_eq_ok_iff, not_escapes_outputOf, outputOf_eq_ok_iff,
    escapes_listsOf, not_escapes_ok, false_or, and_false, exists_false, or_false, Prod.exists,
    exists_and_left, exists_and_right]
  constructor
  · rintro (h | ⟨hproject, hroot, h | ⟨hschema, hfiles, h | ⟨houtput, hfile,
      h | ⟨hcompiler, v, hv, h⟩⟩⟩⟩)
    · exact .project h
    · exact .schema ⟨hproject, hroot⟩ h
    · exact .output ⟨hproject, hroot⟩ ⟨hschema, hfiles⟩ h
    · exact .compiler ⟨hproject, hroot⟩ ⟨hschema, hfiles⟩ ⟨houtput, hfile⟩ h
    · exact .lists ⟨hproject, hroot⟩ ⟨hschema, hfiles⟩ ⟨houtput, hfile⟩ hcompiler hv h
  · intro h
    cases h with
    | project h => exact .inl h
    | schema hroot h => exact .inr ⟨hroot.1, hroot.2, .inl h⟩
    | output hroot hfiles h =>
      exact .inr ⟨hroot.1, hroot.2, .inr ⟨hfiles.1, hfiles.2, .inl h⟩⟩
    | compiler hroot hfiles houtput h =>
      exact .inr ⟨hroot.1, hroot.2, .inr ⟨hfiles.1, hfiles.2,
        .inr ⟨houtput.1, houtput.2, .inl h⟩⟩⟩
    | lists hroot hfiles houtput hcompiler hv h =>
      exact .inr ⟨hroot.1, hroot.2, .inr ⟨hfiles.1, hfiles.2,
        .inr ⟨houtput.1, houtput.2, .inr ⟨hcompiler, _, hv, h⟩⟩⟩⟩

end Manifest

end SchemaGrammar
