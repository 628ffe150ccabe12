import SchemaGrammar.Command.Ending
import SchemaGrammar.Proofs.Files.Runs

/-!
# What commands do to a tree of files

A command first reads, then makes the whole text of a grammar or finds out why there is none, and
only then delivers. All that is reported comes before the delivery.
-/
namespace SchemaGrammar

namespace Schema

def writableGrammar (s : Schema) (root : String) (lists : ListElements) :
    Except GrammarError Grammar := do
  let g ← (s.grammar root lists).mapError .compile
  match g.fault? with
  | some e => throw (.render e)
  | none => return g

theorem grammarText_eq_map (s : Schema) (root : String) (lists : ListElements) :
    s.grammarText root lists = (s.writableGrammar root lists).map Grammar.lines := by
  rw [grammarText, writableGrammar]
  cases s.grammar root lists with
  | error e => rfl
  | ok g =>
    dsimp only [Except.mapError, bind, Except.bind]
    rw [Grammar.text]
    cases g.fault? <;> rfl

end Schema

namespace Command

open Files

theorem onTree_eq (directory : Path) (command : Command) (t : Tree) :
    command.onTree directory t =
      (.ofResult (t.after (command.run directory)).1, (t.after (command.run directory)).2) := rfl

section Parts

variable (t : Tree)

def loaded (schemas enumerations : List Path) : Except Stop Schema :=
  (t.schemas schemas enumerations).mapError .ofLoadError

theorem after_load (schemas enumerations : List Path) :
    t.after ((loadSchemas schemas enumerations).adapt Stop.ofLoadError) =
      (loaded t schemas enumerations, t) := by
  rw [Tree.after_adapt, Tree.after_loadSchemas, loaded]

def fileGrammar (schemas enumerations : List Path) (root : String) (lists : ListElements) :
    Except Stop Grammar :=
  (loaded t schemas enumerations).bind fun s =>
    (s.writableGrammar root lists).mapError .ofGrammarError

/-- How a text is delivered, and the tree after that. A text that cannot be encoded leaves an empty
file. -/
def delivered (text : String) (output : Option Path) (done : Path → Except Stop String) :
    Except Stop String × Tree :=
  match output with
  | none => (if Text.holdsHalf text.toList then .error .unencodable else .ok text, t)
  | some path =>
    match t.write path (if Text.holdsHalf text.toList then "" else text).toUTF8 with
    | .error f => (.error (.unwritable f), t)
    | .ok t' =>
      (if Text.holdsHalf text.toList then .error .unencodable else (done path).bind notice, t')

theorem after_deliver (text : String) (output : Option Path) (done : Path → Except Stop String) :
    t.after (deliver text output done) = delivered t text output done := by
  cases output with
  | none =>
    rw [deliver, delivered]
    cases Text.holdsHalf text.toList <;> rfl
  | some path =>
    cases hhalf : Text.holdsHalf text.toList with
    | true =>
      simp only [deliver, delivered, hhalf, ↓reduceIte]
      cases hw : t.write path "".toUTF8 with
      | error f => exact Tree.after_bind_of_error (Tree.after_writeText_of_error hw _) _
      | ok t' => exact Tree.after_bind_of_ok (Tree.after_writeText_of_ok hw _) _
    | false =>
      simp only [deliver, delivered, hhalf, Bool.false_eq_true, ↓reduceIte]
      cases hw : t.write path text.toUTF8 with
      | error f => exact Tree.after_bind_of_error (Tree.after_writeText_of_error hw _) _
      | ok t' =>
        rw [Tree.after_bind_of_ok (Tree.after_writeText_of_ok hw _)]
        exact Tree.after_bind_of_reads rfl fun _ => rfl

def compiled (schemas enumerations : List Path) (root : String) (lists : ListElements)
    (output : Option Path) (done : Path → Except Stop String) : Except Stop String × Tree :=
  match fileGrammar t schemas enumerations root lists with
  | .error stop => (.error stop, t)
  | .ok g => delivered t g.lines output done

theorem after_compiling (schemas enumerations : List Path) (root : String) (lists : ListElements)
    (output : Option Path) (done : Path → Except Stop String) :
    t.after (do
      let s ← (loadSchemas schemas enumerations).adapt Stop.ofLoadError
      let text ← (s.grammarText root lists).mapError Stop.ofGrammarError
      deliver text output done) = compiled t schemas enumerations root lists output done := by
  rw [compiled, fileGrammar]
  cases hs : loaded t schemas enumerations with
  | error stop => exact Tree.after_bind_of_error (hs ▸ after_load t _ _) _
  | ok s =>
    rw [Tree.after_bind_of_ok (hs ▸ after_load t _ _), s.grammarText_eq_map]
    dsimp only [Except.bind]
    cases s.writableGrammar root lists with
    | error e => exact Tree.after_bind_of_error rfl _
    | ok g => exact after_deliver t g.lines output _

end Parts

/-! ## Whole commands -/

section Commands

variable {t : Tree} (directory : Path) {schema : Path} {enumerations : List Path} {root : String}
  {output : Option Path} {lists : ListElements}

theorem after_compile : t.after ((compile schema enumerations root output lists).run directory) =
    compiled t [schema] enumerations root lists output fun path =>
      .ok s!"Wrote grammar for {root} to {path}" :=
  after_compiling ..

theorem after_check : t.after ((check schema enumerations root).run directory) =
    ((fileGrammar t [schema] enumerations root .all).map fun g =>
      (g.listing s!"Grammar for {root}").text ++ s!"\nOK {g.elements.length} element(s)\n", t) := by
  rw [run, runCheck, fileGrammar]
  refine (Tree.after_bind_of_reads (g := fun s =>
    ((s.writableGrammar root .all).mapError .ofGrammarError).map fun g =>
      (g.listing s!"Grammar for {root}").text ++ s!"\nOK {g.elements.length} element(s)\n")
    (after_load t _ _) fun s => ?_).trans ?_
  · rw [Schema.writableGrammar]
    cases s.grammar root .all with
    | error e => rfl
    | ok g =>
      refine (Tree.after_bind_of_ok rfl _).trans ?_
      dsimp only [Except.mapError, bind, Except.bind]
      cases g.fault? <;> rfl
  · cases loaded t [schema] enumerations <;> rfl

theorem after_build (manifest : Path) : t.after ((build manifest).run directory) =
    match (t.manifest (directory.resolve manifest)).mapError Stop.ofManifestError with
    | .error stop => (.error stop, t)
    | .ok m => compiled t m.schemaPaths m.enumerationPaths m.root m.lists m.outputPath fun path =>
      if m.name.canShow then .ok s!"Built {m.name.text}: {path}"
      else .error (.badValue .noSuchValue) := by
  rw [run, runBuild]
  have hload : t.after ((loadManifest (directory.resolve manifest)).adapt Stop.ofManifestError) =
      ((t.manifest (directory.resolve manifest)).mapError Stop.ofManifestError, t) := by
    rw [Tree.after_adapt, loadManifest, Tree.after_loadManifestWith]
    rfl
  cases hm : (t.manifest (directory.resolve manifest)).mapError Stop.ofManifestError with
  | error stop => exact Tree.after_bind_of_error (hm ▸ hload) _
  | ok m =>
    rw [Tree.after_bind_of_ok (hm ▸ hload)]
    exact after_compiling ..

end Commands

end Command

end SchemaGrammar
