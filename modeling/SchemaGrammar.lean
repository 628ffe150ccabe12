import SchemaGrammar.Builtin
import SchemaGrammar.Command.Basic
import SchemaGrammar.Command.Ending
import SchemaGrammar.Command.Run
import SchemaGrammar.Command.Words
import SchemaGrammar.Compilation
import SchemaGrammar.Diagnostic
import SchemaGrammar.Document.Check
import SchemaGrammar.Document.Fault
import SchemaGrammar.Document.Json
import SchemaGrammar.Document.Moment
import SchemaGrammar.Document.Read
import SchemaGrammar.Document.Rules
import SchemaGrammar.Document.Schemas
import SchemaGrammar.Document.Toml
import SchemaGrammar.Document.Value
import SchemaGrammar.Document.Yaml
import SchemaGrammar.Document.Yaml.Block
import SchemaGrammar.Document.Yaml.Composition
import SchemaGrammar.Document.Yaml.Layout
import SchemaGrammar.Document.Yaml.Meaning
import SchemaGrammar.Document.Yaml.Node
import SchemaGrammar.Document.Yaml.Placed
import SchemaGrammar.Document.Yaml.Plain
import SchemaGrammar.Document.Yaml.Quoted
import SchemaGrammar.Document.Yaml.Token
import SchemaGrammar.Files.Fault
import SchemaGrammar.Files.Program
import SchemaGrammar.Files.Tree
import SchemaGrammar.Grammar
import SchemaGrammar.Grammar.Listing
import SchemaGrammar.Grammar.Rendering
import SchemaGrammar.Loading
import SchemaGrammar.Main
import SchemaGrammar.Manifest
import SchemaGrammar.Number.Double
import SchemaGrammar.Number.Shortest
import SchemaGrammar.Path
import SchemaGrammar.Proofs.AddedDeclarations
import SchemaGrammar.Proofs.AlikeOutcomes
import SchemaGrammar.Proofs.Arrangement
import SchemaGrammar.Proofs.ArrayTypes
import SchemaGrammar.Proofs.CharClasses
import SchemaGrammar.Proofs.Commands.Agreement
import SchemaGrammar.Proofs.Commands.Effects
import SchemaGrammar.Proofs.Commands.Runs
import SchemaGrammar.Proofs.Conformance
import SchemaGrammar.Proofs.DeclarationOrder
import SchemaGrammar.Proofs.Documents.Checks
import SchemaGrammar.Proofs.Documents.RoundTrip
import SchemaGrammar.Proofs.Documents.Sources
import SchemaGrammar.Proofs.Documents.Spellings
import SchemaGrammar.Proofs.Faults
import SchemaGrammar.Proofs.Files.Loading
import SchemaGrammar.Proofs.Files.Runs
import SchemaGrammar.Proofs.Files.Writing
import SchemaGrammar.Proofs.Json.Documents
import SchemaGrammar.Proofs.Json.Quoting
import SchemaGrammar.Proofs.Json.Texts
import SchemaGrammar.Proofs.KeptResolution
import SchemaGrammar.Proofs.Language
import SchemaGrammar.Proofs.Locations
import SchemaGrammar.Proofs.Manifests
import SchemaGrammar.Proofs.Meaning
import SchemaGrammar.Proofs.NameOrder
import SchemaGrammar.Proofs.Nesting
import SchemaGrammar.Proofs.Notation.Lines
import SchemaGrammar.Proofs.Notation.Names
import SchemaGrammar.Proofs.Notation.NormalForm
import SchemaGrammar.Proofs.Notation.ReadBack
import SchemaGrammar.Proofs.Notation.Signs
import SchemaGrammar.Proofs.Notation.Unambiguous
import SchemaGrammar.Proofs.Outcome
import SchemaGrammar.Proofs.Productions
import SchemaGrammar.Proofs.Readings
import SchemaGrammar.Proofs.ReferencedLists
import SchemaGrammar.Proofs.References
import SchemaGrammar.Proofs.RelatedLists
import SchemaGrammar.Proofs.Rendering
import SchemaGrammar.Proofs.Retyping
import SchemaGrammar.Proofs.Slots
import SchemaGrammar.Proofs.Source.Agreement
import SchemaGrammar.Proofs.Source.ArraySpellings
import SchemaGrammar.Proofs.Source.ArraysOfRecords
import SchemaGrammar.Proofs.Source.Below
import SchemaGrammar.Proofs.Source.Brackets
import SchemaGrammar.Proofs.Source.Calls
import SchemaGrammar.Proofs.Source.CanonicalTypes
import SchemaGrammar.Proofs.Source.Concatenation
import SchemaGrammar.Proofs.Source.Continuation
import SchemaGrammar.Proofs.Source.DeclaredProperties
import SchemaGrammar.Proofs.Source.Enumerations
import SchemaGrammar.Proofs.Source.ErrorTokens
import SchemaGrammar.Proofs.Source.FaultPlaces
import SchemaGrammar.Proofs.Source.Initializers
import SchemaGrammar.Proofs.Source.Insertion
import SchemaGrammar.Proofs.Source.Layout
import SchemaGrammar.Proofs.Source.Lexemes
import SchemaGrammar.Proofs.Source.LexicalFaults
import SchemaGrammar.Proofs.Source.NestedTypes
import SchemaGrammar.Proofs.Source.Outcomes
import SchemaGrammar.Proofs.Source.Padding
import SchemaGrammar.Proofs.Source.Parsing
import SchemaGrammar.Proofs.Source.PassedOver
import SchemaGrammar.Proofs.Source.Places
import SchemaGrammar.Proofs.Source.Reach
import SchemaGrammar.Proofs.Source.Reading
import SchemaGrammar.Proofs.Source.Records
import SchemaGrammar.Proofs.Source.Relocation
import SchemaGrammar.Proofs.Source.RoundTrip
import SchemaGrammar.Proofs.Source.Spelling
import SchemaGrammar.Proofs.Source.StringEnds
import SchemaGrammar.Proofs.Source.StringValues
import SchemaGrammar.Proofs.Source.Strings
import SchemaGrammar.Proofs.Source.TakenTokens
import SchemaGrammar.Proofs.Source.Tiling
import SchemaGrammar.Proofs.Source.TypeParameters
import SchemaGrammar.Proofs.Source.TypeTokens
import SchemaGrammar.Proofs.Source.Writing
import SchemaGrammar.Proofs.StepOrder
import SchemaGrammar.Proofs.Trimming
import SchemaGrammar.Resolution
import SchemaGrammar.Rest
import SchemaGrammar.Rule
import SchemaGrammar.Schema
import SchemaGrammar.Schema.Elements
import SchemaGrammar.Schema.Grammar
import SchemaGrammar.Source.Calls
import SchemaGrammar.Source.Cursor
import SchemaGrammar.Source.Declarations
import SchemaGrammar.Source.Enumerations
import SchemaGrammar.Source.Fault
import SchemaGrammar.Source.Part
import SchemaGrammar.Source.Records
import SchemaGrammar.Source.StringLiteral
import SchemaGrammar.Source.Token
import SchemaGrammar.Source.Tokens
import SchemaGrammar.Source.Trivia
import SchemaGrammar.Source.Types
import SchemaGrammar.Text.Argument
import SchemaGrammar.Text.Case
import SchemaGrammar.Text.CharClass
import SchemaGrammar.Text.CodePoint
import SchemaGrammar.Text.Digits
import SchemaGrammar.Text.LetterRanges
import SchemaGrammar.Text.Lines
import SchemaGrammar.Text.NameOrder
import SchemaGrammar.Text.NumberRanges
import SchemaGrammar.Text.Picture
import SchemaGrammar.Text.PictureTable
import SchemaGrammar.Text.Quoted
import SchemaGrammar.Text.Shown
import SchemaGrammar.Text.StyleName
import SchemaGrammar.Text.Styled
import SchemaGrammar.Text.Table
import SchemaGrammar.Text.UnprintableRanges
import SchemaGrammar.Text.WidthRanges
