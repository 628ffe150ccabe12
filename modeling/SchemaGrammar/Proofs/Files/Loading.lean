import SchemaGrammar.Proofs.Commands.Effects
import SchemaGrammar.Proofs.Manifests

/-!
# What loading comes to

A file that is loaded gives a good result, or an error that is reported. Only these files do not:
those whose bytes are no text, those whose text writes a value that there is none of, and those
whose document is taken for a manifest and breaks off.
-/
namespace SchemaGrammar

def LoadError.IsReported (e : LoadError) : Prop := Command.Stop.ofLoadError e = .error (.load e)

theorem LoadError.isReported_ofFault {path : Path} {f : Document.Fault} :
    (LoadError.ofFault path f).IsReported ↔ f = .malformed := by
  cases f <;> simp [LoadError.ofFault, LoadError.IsReported, Command.Stop.ofLoadError]

theorem ManifestError.isReported_ofFault {path : Path} {f : Document.Fault} :
    (ManifestError.ofFault path f).IsReported ↔ f = .malformed := by
  cases f <;> simp [ManifestError.ofFault, ManifestError.IsReported, Command.Stop.ofManifestError]

/-! ## Settled results -/

section Settled

variable {α ε : Type} {reported : ε → Prop} {good : α → Prop} {r : Except ε α}

/-- The result is good, or an error that is reported. -/
def Settled (reported : ε → Prop) (good : α → Prop) : Except ε α → Prop
  | .ok a => good a
  | .error e => reported e

theorem settled_iff_of_good (hgood : ∀ a, r = .ok a → good a) :
    Settled reported good r ↔ ¬ Escapes reported r := by
  cases r with
  | ok a => simpa [Settled] using hgood a rfl
  | error e => simp [Settled]

end Settled

/-! ## Texts and documents -/

namespace Schema

variable {path : Path} {text : String}

theorem not_escapes_ofSource : ¬ Escapes LoadError.IsReported (ofSource path text) := by
  rw [ofSource, escapes_mapError]
  rintro ⟨f, -, h⟩
  exact h rfl

theorem not_escapes_ofDocument {source : String} {v : Document.Value} :
    ¬ Escapes LoadError.IsReported (ofDocument source v) := by
  rw [ofDocument, escapes_mapError]
  rintro ⟨complaints, -, h⟩
  exact h rfl

theorem not_escapes_enumerationsOnly {s : Schema} {source : String} :
    ¬ Escapes LoadError.IsReported (s.enumerationsOnly source) := by
  rw [enumerationsOnly]
  split_ifs <;> simp
  rfl

/-- The document writes a value that there is none of. -/
inductive BreaksOff (readers : Document.Readers) (path : Path) (text : String) : Prop
  | json {f : Document.Fault} (hpath : SchemaFormat.ofPath path = .json)
      (hread : readers.json text = .error f) (hf : f ≠ .malformed)
  | yaml {f : Document.Fault} (hpath : SchemaFormat.ofPath path = .yaml)
      (hread : readers.yaml text = .error f) (hf : f ≠ .malformed)

theorem escapes_ofValue {v : Except Document.Fault Document.Value} :
    Escapes LoadError.IsReported ((v.mapError (.ofFault path)).bind (ofDocument path.text)) ↔
      ∃ f, v = .error f ∧ f ≠ .malformed := by
  simp only [escapes_bind, escapes_mapError, not_escapes_ofDocument, and_false, exists_false,
    or_false, LoadError.isReported_ofFault, ne_eq]

theorem escapes_ofFileTextWith_iff {readers : Document.Readers} :
    Escapes LoadError.IsReported (ofFileTextWith readers path text) ↔
      BreaksOff readers path text := by
  rw [ofFileTextWith]
  constructor
  · intro h
    split at h
    · exact (not_escapes_ofSource h).elim
    · next hpath =>
      obtain ⟨f, hread, hf⟩ := escapes_ofValue.mp h
      exact .json hpath hread hf
    · next hpath =>
      obtain ⟨f, hread, hf⟩ := escapes_ofValue.mp h
      exact .yaml hpath hread hf
  · rintro (⟨hpath, hread, hf⟩ | ⟨hpath, hread, hf⟩)
    all_goals
      rw [hpath]
      exact escapes_ofValue.mpr ⟨_, hread, hf⟩

end Schema

namespace Manifest

variable {readers : Document.Readers} {path : Path} {text : String}

def Describes (readers : Document.Readers) (path : Path) (text : String) (m : Manifest) : Prop :=
  ∃ document, readers.toml text = .ok (.object document) ∧ m.Fits path document

theorem ofTextWith_eq_ok_iff {m : Manifest} :
    ofTextWith readers path text = .ok m ↔ Describes readers path text m := by
  unfold ofTextWith Describes
  split
  · next document hread => simp [hread, ofDocument_eq_ok_iff]
  · next v hnot hread =>
    simp only [hread, reduceCtorEq, Except.ok.injEq, false_iff, not_exists, not_and]
    exact fun document h => (hnot document h).elim
  · next f hread => simp [hread]

inductive TextBreaksOff (readers : Document.Readers) (text : String) : Prop
  | value {f : Document.Fault} (hread : readers.toml text = .error f) (hf : f ≠ .malformed)
  | document {document : List (String × Document.Value)}
      (hread : readers.toml text = .ok (.object document)) (h : BreaksOff document)

theorem escapes_ofTextWith_iff (path : Path) :
    Escapes ManifestError.IsReported (ofTextWith readers path text) ↔
      TextBreaksOff readers text := by
  constructor
  · intro h
    rw [ofTextWith] at h
    split at h
    · next document hread => exact .document hread (escapes_ofDocument_iff.mp h)
    · exact (escapes_error.mp h rfl).elim
    · next f hread =>
      exact .value hread (ManifestError.isReported_ofFault.not.mp (escapes_error.mp h))
  · rintro (⟨hread, hf⟩ | ⟨hread, h⟩)
    · rw [ofTextWith, hread]
      exact escapes_error.mpr (ManifestError.isReported_ofFault.not.mpr hf)
    · rw [ofTextWith, hread]
      exact escapes_ofDocument_iff.mpr h

end Manifest

/-! ## Files -/

namespace Files.Tree

variable {readers : Document.Readers} {t : Tree} {path : Path}

def HoldsNoText (t : Tree) (path : Path) : Prop :=
  ∃ bytes, t.read path = .ok bytes ∧ Text.ofBytes? bytes = none

/-- Reading a text from a file: the error escapes if there is none, or if that of the text does. -/
theorem escapes_read_iff {α ε : Type} {reported : ε → Prop} {unreadable : Fault → ε}
    {undecodable : ε} (hunreadable : ∀ f, reported (unreadable f))
    (hundecodable : ¬ reported undecodable) (ofText : String → Except ε α) :
    Escapes reported (do
      let bytes ← (t.read path).mapError unreadable
      match Text.ofBytes? bytes with
      | none => throw undecodable
      | some text => ofText text) ↔
    t.HoldsNoText path ∨ ∃ text, t.HoldsText path text ∧ Escapes reported (ofText text) := by
  unfold HoldsNoText HoldsText
  cases t.read path with
  | error f => simp [Except.mapError, bind, Except.bind, hunreadable]
  | ok bytes =>
    dsimp only [Except.mapError, bind, Except.bind]
    cases htext : Text.ofBytes? bytes with
    | none => simp [htext, hundecodable, throw, throwThe, MonadExceptOf.throw]
    | some text => simp [htext]

def SchemaBreaksOff (readers : Document.Readers) (t : Tree) (path : Path) : Prop :=
  t.HoldsNoText path ∨ ∃ text, t.HoldsText path text ∧ Schema.BreaksOff readers path text

def ManifestBreaksOff (readers : Document.Readers) (t : Tree) (path : Path) : Prop :=
  t.HoldsNoText path ∨ ∃ text, t.HoldsText path text ∧ Manifest.TextBreaksOff readers text

theorem escapes_schemaWith_iff :
    Escapes LoadError.IsReported (t.schemaWith readers path) ↔ t.SchemaBreaksOff readers path := by
  have hunreadable (f : Fault) : LoadError.IsReported (.unreadable path f) := rfl
  have hundecodable : ¬ LoadError.IsReported .undecodable := nofun
  simp only [SchemaBreaksOff, ← Schema.escapes_ofFileTextWith_iff]
  exact escapes_read_iff hunreadable hundecodable _

theorem escapes_enumerationsWith_iff :
    Escapes LoadError.IsReported (t.enumerationsWith readers path) ↔
      t.SchemaBreaksOff readers path := by
  simp only [enumerationsWith, bind, escapes_bind, escapes_schemaWith_iff,
    Schema.not_escapes_enumerationsOnly, and_false, exists_false, or_false]

theorem escapes_manifestWith_iff :
    Escapes ManifestError.IsReported (t.manifestWith readers path) ↔
      t.ManifestBreaksOff readers path := by
  have hunreadable (f : Fault) : ManifestError.IsReported (.unreadable path f) := rfl
  have hundecodable : ¬ ManifestError.IsReported .undecodable := nofun
  simp only [ManifestBreaksOff, ← Manifest.escapes_ofTextWith_iff path]
  exact escapes_read_iff hunreadable hundecodable _

end Files.Tree

open Files

/-- Whatever values documents have, whatever bytes a tree of files holds and whatever values readers
find in its texts, loading settles unless it breaks off. A schema is there or an error of the schema
file is reported, and so for files of enumerations; a manifest is there and its document gives every
part of it, or an error of the manifest is reported. -/
theorem loading_settles (readers : Document.Readers) (t : Tree) (path : Path) :
    (∀ source v, Settled LoadError.IsReported (fun _ => True) (Schema.ofDocument source v)) ∧
    (∀ document, Settled ManifestError.IsReported (·.Fits path document)
        (Manifest.ofDocument path document) ↔ ¬ Manifest.BreaksOff document) ∧
    (Settled LoadError.IsReported (fun _ => True) (t.after (loadSchemaWith readers path)).1 ↔
      ¬ t.SchemaBreaksOff readers path) ∧
    (Settled LoadError.IsReported (fun s => ∀ d ∈ s.declarations, d.enumeration?.isSome)
        (t.after (loadEnumerationsWith readers path)).1 ↔ ¬ t.SchemaBreaksOff readers path) ∧
    (Settled ManifestError.IsReported
        (fun m => ∃ text, t.HoldsText path text ∧ Manifest.Describes readers path text m)
        (t.after (loadManifestWith readers path)).1 ↔ ¬ t.ManifestBreaksOff readers path) := by
  rw [Tree.after_loadSchemaWith, Tree.after_loadEnumerationsWith, Tree.after_loadManifestWith]
  refine ⟨fun source v => ?_, fun document => ?_, ?_, ?_, ?_⟩
  · exact (settled_iff_of_good fun _ _ => trivial).mpr Schema.not_escapes_ofDocument
  · rw [← Manifest.escapes_ofDocument_iff]
    exact settled_iff_of_good fun m => Manifest.ofDocument_eq_ok_iff.mp
  · rw [← Tree.escapes_schemaWith_iff]
    exact settled_iff_of_good fun _ _ => trivial
  · rw [← Tree.escapes_enumerationsWith_iff]
    exact settled_iff_of_good fun s hs => (Tree.enumerationsWith_eq_ok_iff.mp hs).2
  · rw [← Tree.escapes_manifestWith_iff]
    refine settled_iff_of_good fun m hm => ?_
    obtain ⟨text, htext, hm⟩ := Tree.read_eq_ok_iff.mp hm
    exact ⟨text, htext, Manifest.ofTextWith_eq_ok_iff.mp hm⟩

/-- A source of one byte, which begins no character. -/
def strayByte : Tree := ⟨[(["x.ts"], ⟨#[0xff]⟩)], [], []⟩

theorem loading_strayByte_not_settled :
    ¬ Settled LoadError.IsReported (fun _ => True)
      (strayByte.after (loadSchema (Path.ofString "x.ts"))).1 ∧
    ∀ good, ¬ Settled ManifestError.IsReported good
      (Manifest.ofDocument Manifest.defaultPath [("project", .int 3)]) := by
  have hsource : strayByte.schema (Path.ofString "x.ts") = .error .undecodable := rfl
  have hmanifest : Manifest.ofDocument Manifest.defaultPath [("project", .int 3)] =
      .error .notTable := rfl
  rw [loadSchema, Tree.after_loadSchemaWith, ← Tree.schema, hsource, hmanifest]
  exact ⟨nofun, fun _ => nofun⟩

end SchemaGrammar
