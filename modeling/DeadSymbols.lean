import DeadSymbols.Analysis
import DeadSymbols.Codec
import DeadSymbols.Command.Analyze
import DeadSymbols.Command.Failure
import DeadSymbols.Command.Line
import DeadSymbols.Command.Listing
import DeadSymbols.Command.Run
import DeadSymbols.Dump.Outline
import DeadSymbols.Dump.Record
import DeadSymbols.Dump.Reference
import DeadSymbols.Dump.Section
import DeadSymbols.Host
import DeadSymbols.Host.FileError
import DeadSymbols.Host.FileTree
import DeadSymbols.Host.Log
import DeadSymbols.Host.Program
import DeadSymbols.Image.Digest
import DeadSymbols.Image.Input
import DeadSymbols.Image.MachO
import DeadSymbols.Index
import DeadSymbols.Json.Decoder
import DeadSymbols.Json.Problem
import DeadSymbols.Json.Scalar
import DeadSymbols.Json.Value
import DeadSymbols.Main
import DeadSymbols.Method
import DeadSymbols.Name.Demangler
import DeadSymbols.Name.Memo
import DeadSymbols.Name.Pool
import DeadSymbols.Name.Resolution
import DeadSymbols.Name.Shared
import DeadSymbols.Number.Binary64
import DeadSymbols.Number.Shortest
import DeadSymbols.Ordered.NameMap
import DeadSymbols.Ordered.NameSet
import DeadSymbols.Path
import DeadSymbols.Proofs.Appended
import DeadSymbols.Proofs.ByteOrder
import DeadSymbols.Proofs.Findings
import DeadSymbols.Proofs.Flavors
import DeadSymbols.Proofs.Implements
import DeadSymbols.Proofs.Index
import DeadSymbols.Proofs.IndexKeys
import DeadSymbols.Proofs.IndexOrder
import DeadSymbols.Proofs.Joined
import DeadSymbols.Proofs.LineEnds
import DeadSymbols.Proofs.LineGrammar
import DeadSymbols.Proofs.Lines
import DeadSymbols.Proofs.Ordered
import DeadSymbols.Proofs.Pool
import DeadSymbols.Proofs.Printed.Description
import DeadSymbols.Proofs.Printed.Line
import DeadSymbols.Proofs.Printed.Records
import DeadSymbols.Proofs.Printed.Recovery
import DeadSymbols.Proofs.Printed.Sections
import DeadSymbols.Proofs.References
import DeadSymbols.Proofs.Renaming
import DeadSymbols.Proofs.Reordered
import DeadSymbols.Proofs.Resolution
import DeadSymbols.Proofs.Scan
import DeadSymbols.Proofs.Shared
import DeadSymbols.Proofs.Slots
import DeadSymbols.Proofs.UnusedClasses
import DeadSymbols.Proofs.UnusedMethods
import DeadSymbols.Provider
import DeadSymbols.Report.Clock
import DeadSymbols.Report.Context
import DeadSymbols.Report.Format
import DeadSymbols.Report.Html
import DeadSymbols.Report.Render
import DeadSymbols.Settings
import DeadSymbols.SettingsFile
import DeadSymbols.Slots
import DeadSymbols.Text.Line
import DeadSymbols.Text.Printable
import DeadSymbols.Text.Quoted
import DeadSymbols.Text.Scan
import DeadSymbols.Text.Space
import DeadSymbols.Text.Utf8
import DeadSymbols.Whitelist
import DeadSymbols.Yaml.Cursor
import DeadSymbols.Yaml.Node
import DeadSymbols.Yaml.Scalar
import DeadSymbols.Yaml.Schema
import DeadSymbols.Yaml.Stream
import DeadSymbols.Yaml.Token
import DeadSymbols.Proofs.Json.Strings
import DeadSymbols.Proofs.Json.Reading
import DeadSymbols.Proofs.Overlap
import DeadSymbols.Proofs.Codec
import DeadSymbols.Proofs.Simulation
import DeadSymbols.Proofs.Effects
import DeadSymbols.Proofs.FileTree
import DeadSymbols.Proofs.Staging
import DeadSymbols.Proofs.Commands
import DeadSymbols.Proofs.Failing
import DeadSymbols.Proofs.Json.Skipping
import DeadSymbols.Proofs.Json.Unambiguous
import DeadSymbols.Proofs.Headers
import DeadSymbols.Proofs.Report.Json
import DeadSymbols.Proofs.Layout
import DeadSymbols.Proofs.Extents
import DeadSymbols.Proofs.Regions
import DeadSymbols.Proofs.Multiplicity
import DeadSymbols.Proofs.ClassNames
import DeadSymbols.Proofs.Pairing
import DeadSymbols.Proofs.SelectorReferences
import DeadSymbols.Proofs.Memo
import DeadSymbols.Proofs.Questions
import DeadSymbols.Proofs.Report.Text
import DeadSymbols.Proofs.Report.Html
import DeadSymbols.Proofs.Json.Accepting
import DeadSymbols.Proofs.Whitelist
