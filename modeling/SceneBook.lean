import SceneBook.Artifact
import SceneBook.Collate.Graphics
import SceneBook.Collate.Markup
import SceneBook.Collate.Plugin
import SceneBook.Collate.Scripting
import SceneBook.Collate.Styling
import SceneBook.Command.Arguments
import SceneBook.Command.Basic
import SceneBook.Command.Form
import SceneBook.Command.Run
import SceneBook.Command.Usage
import SceneBook.Failure
import SceneBook.Files.Basic
import SceneBook.Files.Folder
import SceneBook.Files.Path
import SceneBook.Import.Basic
import SceneBook.Import.Given
import SceneBook.Import.Reading
import SceneBook.Language.Basic
import SceneBook.Language.Opening
import SceneBook.Language.Web
import SceneBook.Limits
import SceneBook.Main
import SceneBook.Misuse
import SceneBook.Mount.Basic
import SceneBook.Mount.Dispatch
import SceneBook.Mount.Script
import SceneBook.Number.Double
import SceneBook.Number.Shortest
import SceneBook.Number.Spelled
import SceneBook.Number.Written
import SceneBook.Proofs.Collate.Announcements
import SceneBook.Proofs.Collate.Boundaries
import SceneBook.Proofs.Collate.Bundles
import SceneBook.Proofs.Collate.Containers
import SceneBook.Proofs.Collate.DispatchTable
import SceneBook.Proofs.Collate.EntryFrames
import SceneBook.Proofs.Collate.Hoisting
import SceneBook.Proofs.Collate.ManifestText
import SceneBook.Proofs.Collate.Manifests
import SceneBook.Proofs.Collate.ModuleLines
import SceneBook.Proofs.Collate.MountText
import SceneBook.Proofs.Collate.Names
import SceneBook.Proofs.Collate.Provenance
import SceneBook.Proofs.Collate.Readings
import SceneBook.Proofs.Collate.Refusals
import SceneBook.Proofs.Collate.Reordering
import SceneBook.Proofs.Collate.Requests
import SceneBook.Proofs.Collate.SceneCoverage
import SceneBook.Proofs.Collate.Separation
import SceneBook.Proofs.Collate.SettingsScope
import SceneBook.Proofs.Command.Collation
import SceneBook.Proofs.Command.Delivery
import SceneBook.Proofs.Command.ManifestFiles
import SceneBook.Proofs.Import.Acceptance
import SceneBook.Proofs.Import.GivenLines
import SceneBook.Proofs.Import.Unambiguous
import SceneBook.Proofs.Language.Beginnings
import SceneBook.Proofs.Language.Declarations
import SceneBook.Proofs.Language.Identifiers
import SceneBook.Proofs.Language.OpeningTags
import SceneBook.Proofs.Language.Rows
import SceneBook.Proofs.Language.Subtypes
import SceneBook.Proofs.Mount.Calls
import SceneBook.Proofs.Mount.Isolation
import SceneBook.Proofs.Mount.Scripts
import SceneBook.Proofs.Mount.Twins
import SceneBook.Proofs.Mount.Writes
import SceneBook.Proofs.Number.Rounding
import SceneBook.Proofs.Registry.Classification
import SceneBook.Proofs.Registry.History
import SceneBook.Proofs.Registry.Marks
import SceneBook.Proofs.Registry.Passes
import SceneBook.Proofs.Registry.Registration
import SceneBook.Proofs.Registry.Suggestions
import SceneBook.Proofs.Registry.Tags
import SceneBook.Proofs.Results
import SceneBook.Proofs.Settings.Calls
import SceneBook.Proofs.Settings.Layered
import SceneBook.Proofs.Settings.Loading
import SceneBook.Proofs.Settings.Merging
import SceneBook.Proofs.Settings.Names
import SceneBook.Proofs.Settings.Objects
import SceneBook.Proofs.Settings.Overrides
import SceneBook.Proofs.Settings.Precedence
import SceneBook.Proofs.Settings.Saving
import SceneBook.Proofs.Store.Aliases
import SceneBook.Proofs.Store.Coherence
import SceneBook.Proofs.Store.Composition
import SceneBook.Proofs.Store.Nodes
import SceneBook.Proofs.Store.Paths
import SceneBook.Proofs.Store.Reach
import SceneBook.Proofs.Store.RootKey
import SceneBook.Proofs.Store.Routes
import SceneBook.Proofs.Store.Session
import SceneBook.Proofs.Store.Twins
import SceneBook.Proofs.Text.Decimal
import SceneBook.Proofs.Text.Encoding
import SceneBook.Proofs.Text.Join
import SceneBook.Proofs.Text.JsonLiteral
import SceneBook.Proofs.Text.JsonReading
import SceneBook.Proofs.Text.Lines
import SceneBook.Proofs.Text.Runs
import SceneBook.Proofs.Text.ScriptLiteral
import SceneBook.Proofs.Text.Similarity
import SceneBook.Proofs.Text.Storable
import SceneBook.Proofs.Text.Subsequences
import SceneBook.Proofs.Text.Template
import SceneBook.Proofs.Value.Collections
import SceneBook.Proofs.Value.Entries
import SceneBook.Proofs.Value.Growth
import SceneBook.Proofs.Value.Held
import SceneBook.Proofs.Value.Keys
import SceneBook.Proofs.Value.Likeness
import SceneBook.Proofs.Value.Links
import SceneBook.Proofs.Value.Reading
import SceneBook.Proofs.Value.Regions
import SceneBook.Proofs.Value.Sharing
import SceneBook.Proofs.Value.Twins
import SceneBook.Proofs.Workbook.Documents
import SceneBook.Proofs.Workbook.Drafts
import SceneBook.Proofs.Workbook.Extracting
import SceneBook.Proofs.Workbook.Grouping
import SceneBook.Proofs.Workbook.Incremental
import SceneBook.Proofs.Workbook.Loading
import SceneBook.Proofs.Workbook.Numbering
import SceneBook.Proofs.Workbook.Partition
import SceneBook.Proofs.Yaml.Keys
import SceneBook.Proofs.Yaml.Written
import SceneBook.Registry
import SceneBook.Registry.Capabilities
import SceneBook.Report
import SceneBook.Report.Building
import SceneBook.Settings.Basic
import SceneBook.Settings.Document
import SceneBook.Settings.Layers
import SceneBook.Settings.Manager
import SceneBook.Settings.Merge
import SceneBook.Store.Basic
import SceneBook.Text.Base64
import SceneBook.Text.Blank
import SceneBook.Text.Bytes
import SceneBook.Text.CodePoint
import SceneBook.Text.Digit
import SceneBook.Text.Fingerprint
import SceneBook.Text.Hex
import SceneBook.Text.JsonString
import SceneBook.Text.LowerCase
import SceneBook.Text.Printable
import SceneBook.Text.Quoted
import SceneBook.Text.Ranges
import SceneBook.Text.Similarity
import SceneBook.Text.Word
import SceneBook.Value.Basic
import SceneBook.Value.Entries
import SceneBook.Value.Equality
import SceneBook.Value.Heap
import SceneBook.Value.Json
import SceneBook.Value.Scalar
import SceneBook.Value.Shown
import SceneBook.Workbook.Basic
import SceneBook.Workbook.Document
import SceneBook.Workbook.Extraction
import SceneBook.Workbook.File
import SceneBook.Yaml.Assembly
import SceneBook.Yaml.Block
import SceneBook.Yaml.Cursor
import SceneBook.Yaml.Document
import SceneBook.Yaml.Fault
import SceneBook.Yaml.Kind
import SceneBook.Yaml.Lexer
import SceneBook.Yaml.Node
import SceneBook.Yaml.Plain
import SceneBook.Yaml.Quoted
import SceneBook.Yaml.Scalar
import SceneBook.Yaml.Structure
import SceneBook.Yaml.Tag
import SceneBook.Yaml.Token
import SceneBook.Yaml.Writing
