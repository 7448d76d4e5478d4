import RowFactory.Ascending
import RowFactory.Code.Emission
import RowFactory.Code.Grammar
import RowFactory.Code.Ident
import RowFactory.Code.Lexer
import RowFactory.Code.Path
import RowFactory.Code.Printer
import RowFactory.Code.Render
import RowFactory.Code.Token
import RowFactory.Code.Tree
import RowFactory.Code.Validity
import RowFactory.Command.Arguments
import RowFactory.Command.Option
import RowFactory.Command.Report
import RowFactory.Command.Run
import RowFactory.Command.Settings
import RowFactory.Command.Style
import RowFactory.Command.Trial
import RowFactory.Command.Usage
import RowFactory.Disk.Files
import RowFactory.Disk.Path
import RowFactory.Disk.Tree
import RowFactory.Error
import RowFactory.Factory.Associations
import RowFactory.Factory.BlockBuilder
import RowFactory.Factory.Plan
import RowFactory.Factory.StateBuilder
import RowFactory.Factory.States
import RowFactory.Fixtures.Configurations
import RowFactory.Fixtures.Factories
import RowFactory.Fixtures.Tables
import RowFactory.Generation.ModuleIndex
import RowFactory.Generation.Options
import RowFactory.Generation.Output
import RowFactory.Generation.Placement
import RowFactory.Generation.Process
import RowFactory.Generation.Writing
import RowFactory.Json.Decoding
import RowFactory.Json.Document
import RowFactory.Json.Line
import RowFactory.Json.Reader
import RowFactory.Json.Writer
import RowFactory.Layout.Piece
import RowFactory.Main
import RowFactory.Metadata.Coding
import RowFactory.Metadata.Extraction
import RowFactory.Metadata.Package
import RowFactory.Metadata.Table
import RowFactory.Metadata.Validation
import RowFactory.Naming
import RowFactory.Proofs.Ascending
import RowFactory.Proofs.Code.Declarations
import RowFactory.Proofs.Code.Documentation
import RowFactory.Proofs.Code.Idents
import RowFactory.Proofs.Code.Names
import RowFactory.Proofs.Code.Paths
import RowFactory.Proofs.Code.Places
import RowFactory.Proofs.Code.Words
import RowFactory.Proofs.Disk.Changes
import RowFactory.Proofs.Disk.Entries
import RowFactory.Proofs.Disk.Extensions
import RowFactory.Proofs.Disk.Names
import RowFactory.Proofs.Disk.Paths
import RowFactory.Proofs.Disk.Trees
import RowFactory.Proofs.Factory.BlockParts
import RowFactory.Proofs.Factory.Collisions
import RowFactory.Proofs.Factory.Documentation
import RowFactory.Proofs.Factory.Keys
import RowFactory.Proofs.Factory.Places
import RowFactory.Proofs.Factory.Plans
import RowFactory.Proofs.Factory.Rendering
import RowFactory.Proofs.Factory.Scopes
import RowFactory.Proofs.Factory.Slots
import RowFactory.Proofs.Factory.StateNames
import RowFactory.Proofs.Generation.Accounting
import RowFactory.Proofs.Generation.Directories
import RowFactory.Proofs.Generation.Effects
import RowFactory.Proofs.Generation.FileModules
import RowFactory.Proofs.Generation.Histories
import RowFactory.Proofs.Generation.Indexes
import RowFactory.Proofs.Generation.Listings
import RowFactory.Proofs.Generation.ModulePaths
import RowFactory.Proofs.Generation.ModuleTree
import RowFactory.Proofs.Generation.Overwriting
import RowFactory.Proofs.Generation.Placement
import RowFactory.Proofs.Generation.Records
import RowFactory.Proofs.Generation.References
import RowFactory.Proofs.Generation.Relevance
import RowFactory.Proofs.Generation.Reordering
import RowFactory.Proofs.Generation.Repeating
import RowFactory.Proofs.Generation.Staleness
import RowFactory.Proofs.Generation.Survivors
import RowFactory.Proofs.Generation.Tables
import RowFactory.Proofs.Generation.Writing
import RowFactory.Proofs.Json.Documents
import RowFactory.Proofs.Json.Records
import RowFactory.Proofs.Metadata.Extraction
import RowFactory.Proofs.Metadata.KeyOrder
import RowFactory.Proofs.Metadata.Restoring
import RowFactory.Proofs.Metadata.Validation
import RowFactory.Proofs.Results
import RowFactory.Proofs.Rows.Calls
import RowFactory.Proofs.Rows.Handover
import RowFactory.Proofs.Rows.Positions
import RowFactory.Proofs.Rows.Traces
import RowFactory.Proofs.Run.Agreement
import RowFactory.Proofs.Run.BlockBuild
import RowFactory.Proofs.Run.BlockCalls
import RowFactory.Proofs.Run.BlockContents
import RowFactory.Proofs.Run.BlockFactories
import RowFactory.Proofs.Run.BlockLookup
import RowFactory.Proofs.Run.Evaluation
import RowFactory.Proofs.Run.ForeignKeys
import RowFactory.Proofs.Run.StateLookup
import RowFactory.Proofs.Run.Types
import RowFactory.Proofs.Run.Typestate
import RowFactory.Proofs.Schema.Grouping
import RowFactory.Proofs.Schema.Restoring
import RowFactory.Proofs.Source.Markers
import RowFactory.Proofs.Source.Nesting
import RowFactory.Proofs.Source.Scanning
import RowFactory.Proofs.Source.Walks
import RowFactory.Proofs.Text.Casing
import RowFactory.Proofs.Text.Stems
import RowFactory.Rows.Coding
import RowFactory.Rows.Context
import RowFactory.Rows.Factory
import RowFactory.Rows.Row
import RowFactory.Rows.Sequence
import RowFactory.Run.Builder
import RowFactory.Run.Expression
import RowFactory.Run.Function
import RowFactory.Run.Types
import RowFactory.Run.Value
import RowFactory.Schema.Catalog
import RowFactory.Schema.Coding
import RowFactory.Schema.File
import RowFactory.Schema.KindReader
import RowFactory.Schema.Reading
import RowFactory.Source.Directory
import RowFactory.Source.Grammar
import RowFactory.Source.Index
import RowFactory.Source.Item
import RowFactory.Source.Marker
import RowFactory.Source.ModulePath
import RowFactory.Source.Reprint
import RowFactory.Text.Casing
import RowFactory.Text.Decimal
import RowFactory.Text.DisplayTable
import RowFactory.Text.IdentifierTable
import RowFactory.Text.Letter
import RowFactory.Text.LetterTable
import RowFactory.Text.Quoted
import RowFactory.Toml.Reader
import RowFactory.Toml.Scalar
import RowFactory.Toml.Table
import RowFactory.Toml.Text
