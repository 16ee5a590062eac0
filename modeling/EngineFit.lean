import EngineFit.Calls
import EngineFit.Catalog
import EngineFit.Cli.Command
import EngineFit.Cli.Grammar
import EngineFit.Cli.Session
import EngineFit.Config.Document
import EngineFit.Config.Layered
import EngineFit.Config.Store
import EngineFit.Connection
import EngineFit.Console.Emoji
import EngineFit.Console.Markup
import EngineFit.Console.Style
import EngineFit.Console.Table
import EngineFit.Console.Wrap
import EngineFit.Files.Path
import EngineFit.Files.Text
import EngineFit.Files.Tree
import EngineFit.Hardware.Basic
import EngineFit.Hardware.Cache
import EngineFit.Hardware.CpuTable
import EngineFit.Hardware.Gpu
import EngineFit.Hardware.Parse
import EngineFit.Hardware.PciDirectory
import EngineFit.Hardware.Text
import EngineFit.Hardware.VideoMemory
import EngineFit.Json.Read
import EngineFit.Json.Write
import EngineFit.Literal.Syntax
import EngineFit.Literal.Token
import EngineFit.Literal.Value
import EngineFit.Main
import EngineFit.Manifest.Basic
import EngineFit.Manifest.Parse
import EngineFit.Manifest.Text
import EngineFit.Match.Basic
import EngineFit.Match.Cpu
import EngineFit.Match.Device
import EngineFit.Match.Pci
import EngineFit.Number.Decimal
import EngineFit.Number.Fixed
import EngineFit.Number.Integer
import EngineFit.Number.Notation
import EngineFit.Number.Shortest
import EngineFit.Number.Whole
import EngineFit.Proofs.Listing
import EngineFit.Proofs.Matching
import EngineFit.Proofs.ScoreFaults
import EngineFit.Proofs.ScoreMonotone
import EngineFit.Proofs.ScoreReason
import EngineFit.Proofs.ScoreReport
import EngineFit.Proofs.Sorting.Adaptive
import EngineFit.Proofs.Sorting.Merge
import EngineFit.Proofs.Sorting.Natural
import EngineFit.Proofs.Sorting.Order
import EngineFit.Proofs.Sorting.Search
import EngineFit.Proofs.Sorting.Stack
import EngineFit.Ranking
import EngineFit.Requirement.Basic
import EngineFit.Requirement.Parse
import EngineFit.Score
import EngineFit.Sorting.Adaptive
import EngineFit.Sorting.Gallop
import EngineFit.Sorting.Merge
import EngineFit.Text.Base64
import EngineFit.Text.Blank
import EngineFit.Text.Case
import EngineFit.Text.Digit
import EngineFit.Text.Lines
import EngineFit.Text.Printable
import EngineFit.Text.Ranges
import EngineFit.Text.Surrogate
import EngineFit.Text.Utf8
import EngineFit.Text.Width
import EngineFit.Toolbox
import EngineFit.Units
import EngineFit.Value.Basic
import EngineFit.Value.Literal
import EngineFit.Yaml.Cursor
import EngineFit.Yaml.Document
import EngineFit.Yaml.Error
import EngineFit.Yaml.Event
import EngineFit.Yaml.Node
import EngineFit.Yaml.Printer
import EngineFit.Yaml.Scalar
import EngineFit.Yaml.Tag
import EngineFit.Yaml.Timestamp
import EngineFit.Yaml.Token
import EngineFit.Yaml.Token.Lexer
import EngineFit.Yaml.Token.Property
import EngineFit.Yaml.Token.Scalar
import EngineFit.Proofs.ManifestSchema
import EngineFit.Proofs.WrittenFields
import EngineFit.Proofs.ManifestRoundTrip
import EngineFit.Proofs.ConfigFile
import EngineFit.Proofs.LayeredDocument
import EngineFit.Proofs.LayeredRefinement
import EngineFit.Proofs.Linting
import EngineFit.Proofs.UserOverrides
import EngineFit.Proofs.SnapshotRoundTrip
import EngineFit.Proofs.EngineSwitch
import EngineFit.Proofs.CpuMatching
import EngineFit.Proofs.PciMatching
import EngineFit.Proofs.ToolFaults
import EngineFit.Proofs.WritableDocuments
import EngineFit.Proofs.SnapshotInput
import EngineFit.Proofs.SnapshotCache
import EngineFit.Proofs.DottedKeys
import EngineFit.Proofs.SizeGrammar
import EngineFit.Proofs.ProcessorTable
import EngineFit.Proofs.UsableStore
import EngineFit.Proofs.ConfigRecovery
import EngineFit.Proofs.HexGrammar
