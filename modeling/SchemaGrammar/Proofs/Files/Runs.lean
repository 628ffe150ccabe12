import SchemaGrammar.Files.Tree
import SchemaGrammar.Manifest

/-!
# Loading from a tree of files

A program is run part after part, each part on the tree that the one before it leaves. Loading only
reads: it leaves every tree as it is, and what it gives is told by the bytes that the tree holds.
-/
namespace SchemaGrammar

namespace Files

variable {α β γ ε ε' : Type}

namespace Program

theorem bind_pure (p : Program α) : p.bind pure = p := by
  induction p with
  | pure a => rfl
  | read path next ih => exact congrArg _ (funext ih)
  | write path text next ih => exact congrArg _ (funext ih)

theorem bind_bind (p : Program α) (f : α → Program β) (g : β → Program γ) :
    (p.bind f).bind g = p.bind fun a => (f a).bind g := by
  induction p with
  | pure a => rfl
  | read path next ih => exact congrArg _ (funext ih)
  | write path text next ih => exact congrArg _ (funext ih)

instance : LawfulMonad Program :=
  .mk' Program bind_pure (fun _ _ => rfl) bind_bind

theorem run_bind (p : Program α) (f : α → Program β) (t : Tree) :
    (p.bind f).run t = (f (p.run t).1).run (p.run t).2 := by
  induction p generalizing t with
  | pure a => rfl
  | read path next ih => exact ih _ t
  | write path text next ih =>
    rw [bind, run, run]
    cases t.write path text.toUTF8 with
    | error f => exact ih _ t
    | ok t => exact ih _ t

end Program

namespace Tree

/-- The result of a program that may fail, and the tree it leaves. -/
def after (t : Tree) (p : ExceptT ε Program α) : Except ε α × Tree := p.run.run t

section Parts

variable {t t' : Tree} {p : ExceptT ε Program α}

theorem after_bind (t : Tree) (p : ExceptT ε Program α) (f : α → ExceptT ε Program β) :
    t.after (p >>= f) = (ExceptT.bindCont f (t.after p).1).run (t.after p).2 :=
  Program.run_bind p.run (ExceptT.bindCont f) t

theorem after_bind_of_ok {a : α} (h : t.after p = (.ok a, t')) (f : α → ExceptT ε Program β) :
    t.after (p >>= f) = t'.after (f a) := by
  rw [after_bind, h]
  rfl

theorem after_bind_of_error {e : ε} (h : t.after p = (.error e, t'))
    (f : α → ExceptT ε Program β) : t.after (p >>= f) = (.error e, t') := by
  rw [after_bind, h]
  rfl

theorem after_adapt (t : Tree) (p : ExceptT ε Program α) (g : ε → ε') :
    t.after (p.adapt g) = ((t.after p).1.mapError g, (t.after p).2) :=
  Program.run_bind p.run _ t

/-- Parts that leave the tree as it is leave it so together. -/
theorem after_bind_of_reads {r : Except ε α} (h : t.after p = (r, t)) {f : α → ExceptT ε Program β}
    {g : α → Except ε β} (hf : ∀ a, t.after (f a) = (g a, t)) :
    t.after (p >>= f) = (r.bind g, t) := by
  cases r with
  | error e => exact after_bind_of_error h f
  | ok a => rw [after_bind_of_ok h, hf, Except.bind]

theorem after_mapM_of_reads {f : α → ExceptT ε Program β} {g : α → Except ε β}
    (h : ∀ a, t.after (f a) = (g a, t)) (as : List α) :
    t.after (as.mapM f) = (as.mapM g, t) := by
  induction as with
  | nil => rfl
  | cons a as ih =>
    rw [List.mapM_cons, List.mapM_cons]
    exact after_bind_of_reads (h a) fun b => after_bind_of_reads ih fun bs => rfl

end Parts

theorem after_writeText_of_ok {t t' : Tree} {path : Path} {text : String}
    (h : t.write path text.toUTF8 = .ok t') (g : Fault → ε) :
    t.after ((writeText path text).adapt g) = (.ok (), t') := by
  have hrun : t.after (writeText path text) = (.write path text .pure : Program _).run t := rfl
  rw [after_adapt, hrun, Program.run, h]
  rfl

theorem after_writeText_of_error {t : Tree} {path : Path} {text : String} {f : Fault}
    (h : t.write path text.toUTF8 = .error f) (g : Fault → ε) :
    t.after ((writeText path text).adapt g) = (.error (g f), t) := by
  have hrun : t.after (writeText path text) = (.write path text .pure : Program _).run t := rfl
  rw [after_adapt, hrun, Program.run, h]
  rfl

/-! ## What files hold -/

def schemaWith (readers : Document.Readers) (t : Tree) (path : Path) :
    Except LoadError Schema := do
  let bytes ← (t.read path).mapError (.unreadable path)
  match Text.ofBytes? bytes with
  | none => throw .undecodable
  | some text => Schema.ofFileTextWith readers path text

def schema (t : Tree) (path : Path) : Except LoadError Schema := t.schemaWith .standard path

def enumerationsWith (readers : Document.Readers) (t : Tree) (path : Path) :
    Except LoadError Schema := do
  (← t.schemaWith readers path).enumerationsOnly path.text

def enumerations (t : Tree) (path : Path) : Except LoadError Schema :=
  t.enumerationsWith .standard path

/-- The schema of several files, with the files of enumerations in front. -/
def schemas (t : Tree) (schemas enumerations : List Path) : Except LoadError Schema := do
  let enumerations ← enumerations.mapM t.enumerations
  let schemas ← schemas.mapM t.schema
  return (enumerations ++ schemas).foldl (· ++ ·) {}

def manifestWith (readers : Document.Readers) (t : Tree) (path : Path) :
    Except ManifestError Manifest := do
  let bytes ← (t.read path).mapError (.unreadable path)
  match Text.ofBytes? bytes with
  | none => throw .undecodable
  | some text => Manifest.ofTextWith readers path text

def manifest (t : Tree) (path : Path) : Except ManifestError Manifest :=
  t.manifestWith .standard path

variable (readers : Document.Readers) (t : Tree) (path : Path)

theorem after_readBytes (g : Fault → ε) :
    t.after ((readBytes path).adapt g) = ((t.read path).mapError g, t) :=
  after_adapt t (readBytes path) g

theorem after_loadSchemaWith :
    t.after (loadSchemaWith readers path) = (t.schemaWith readers path, t) :=
  after_bind_of_reads (after_readBytes t path _) fun bytes => by
    cases Text.ofBytes? bytes <;> rfl

theorem after_loadEnumerationsWith :
    t.after (loadEnumerationsWith readers path) = (t.enumerationsWith readers path, t) :=
  after_bind_of_reads (after_loadSchemaWith readers t path) fun _ => rfl

theorem after_loadSchemas (schemas enumerations : List Path) :
    t.after (loadSchemas schemas enumerations) = (t.schemas schemas enumerations, t) :=
  after_bind_of_reads
    (after_mapM_of_reads (after_loadEnumerationsWith .standard t) enumerations) fun _ =>
      after_bind_of_reads (after_mapM_of_reads (after_loadSchemaWith .standard t) schemas)
        fun _ => rfl

theorem after_loadManifestWith :
    t.after (loadManifestWith readers path) = (t.manifestWith readers path, t) :=
  after_bind_of_reads (after_readBytes t path _) fun bytes => by
    cases Text.ofBytes? bytes <;> rfl

end Tree

end Files

end SchemaGrammar
