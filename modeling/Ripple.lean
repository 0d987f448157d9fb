import Ripple.Annotation
import Ripple.Changes
import Ripple.CommandLine.Command
import Ripple.CommandLine.Option
import Ripple.CommandLine.Outcome
import Ripple.CommandLine.Run
import Ripple.Config
import Ripple.Config.Project
import Ripple.Diagnostic
import Ripple.Diagnostic.Render
import Ripple.Failure
import Ripple.Files.Canonical
import Ripple.Files.Lookup
import Ripple.Files.Tree
import Ripple.Files.Workspace
import Ripple.Git
import Ripple.Graph
import Ripple.Impact
import Ripple.Import
import Ripple.Main
import Ripple.OrderedMap
import Ripple.Path
import Ripple.Path.Lexical
import Ripple.Project.Analysis
import Ripple.Project.Discovery
import Ripple.Project.Scan
import Ripple.Proofs.Annotation
import Ripple.Proofs.Annotation.Messages
import Ripple.Proofs.CommandLine.Command
import Ripple.Proofs.CommandLine.Interference
import Ripple.Proofs.CommandLine.Settings
import Ripple.Proofs.Config
import Ripple.Proofs.Config.Layers
import Ripple.Proofs.Config.Loading
import Ripple.Proofs.Diagnostic
import Ripple.Proofs.Except
import Ripple.Proofs.Files.Canonical
import Ripple.Proofs.Files.Lookup
import Ripple.Proofs.Files.Removal
import Ripple.Proofs.Files.Skeleton
import Ripple.Proofs.Files.Tree
import Ripple.Proofs.Files.Workspace
import Ripple.Proofs.Git
import Ripple.Proofs.Git.Names
import Ripple.Proofs.Graph.Consistency
import Ripple.Proofs.Graph.Dangling
import Ripple.Proofs.Graph.Edit
import Ripple.Proofs.Graph.Order
import Ripple.Proofs.Graph.Scans
import Ripple.Proofs.Impact.Deletion
import Ripple.Proofs.Impact.Distance
import Ripple.Proofs.Impact.Extent
import Ripple.Proofs.Impact.Limit
import Ripple.Proofs.Impact.Rounds
import Ripple.Proofs.Impact.Seeding
import Ripple.Proofs.Impact.Seeds
import Ripple.Proofs.Impact.Union
import Ripple.Proofs.Impact.Walk
import Ripple.Proofs.OrderedMap
import Ripple.Proofs.Path.Above
import Ripple.Proofs.Path.Lexical
import Ripple.Proofs.Path.Names
import Ripple.Proofs.Path.Order
import Ripple.Proofs.Project.Acceptance
import Ripple.Proofs.Project.Accounting
import Ripple.Proofs.Project.Analysis
import Ripple.Proofs.Project.Building
import Ripple.Proofs.Project.Changes
import Ripple.Proofs.Project.Coverage
import Ripple.Proofs.Project.Deletion
import Ripple.Proofs.Project.Discovery
import Ripple.Proofs.Project.Editing
import Ripple.Proofs.Project.Identity
import Ripple.Proofs.Project.Pruning
import Ripple.Proofs.Project.Reporting
import Ripple.Proofs.Project.Root
import Ripple.Proofs.Project.Scanning
import Ripple.Proofs.Project.Stages
import Ripple.Proofs.Resolver.Absence
import Ripple.Proofs.Resolver.Containment
import Ripple.Proofs.Resolver.Dangling
import Ripple.Proofs.Resolver.Index
import Ripple.Proofs.Resolver.Naming
import Ripple.Proofs.Resolver.Packaged
import Ripple.Proofs.Resolver.Place
import Ripple.Proofs.Resolver.Questions
import Ripple.Proofs.Resolver.Removal
import Ripple.Proofs.Resolver.Resolution
import Ripple.Proofs.Resolver.Spelling
import Ripple.Proofs.Resolver.TopLevels
import Ripple.Proofs.Selection
import Ripple.Proofs.Selection.Ranking
import Ripple.Proofs.Source.Dialects
import Ripple.Proofs.Source.FirstError
import Ripple.Proofs.Source.ImportReading
import Ripple.Proofs.Source.ImportStatement
import Ripple.Proofs.Source.ImportTree
import Ripple.Proofs.Source.Layout
import Ripple.Proofs.Source.Preorder
import Ripple.Proofs.Source.Reader
import Ripple.Proofs.Source.Spacing
import Ripple.Proofs.TestReport
import Ripple.Proofs.TestReport.Numbers
import Ripple.Proofs.TestReport.Skips
import Ripple.Proofs.Text.Digits
import Ripple.Proofs.Text.Fields
import Ripple.Proofs.Text.Lines
import Ripple.Proofs.Text.Markup
import Ripple.Proofs.Text.Terminal
import Ripple.Resolver
import Ripple.Selection
import Ripple.Source.Block
import Ripple.Source.Expression
import Ripple.Source.Fault
import Ripple.Source.Line
import Ripple.Source.Node
import Ripple.Source.Parser
import Ripple.Source.Piece
import Ripple.Source.Reader
import Ripple.Source.Reading
import Ripple.Source.Statement
import Ripple.TestReport
import Ripple.Text.Blank
import Ripple.Text.Compatibility
import Ripple.Text.Compatibility.Table
import Ripple.Text.Digits
import Ripple.Text.Emoji
import Ripple.Text.Identifier
import Ripple.Text.Lines
import Ripple.Text.Markup
import Ripple.Text.Printable
import Ripple.Text.Quoted
import Ripple.Text.Split
import Ripple.Text.Terminal
import Ripple.Text.Utf8
import Ripple.Toml.Document
import Ripple.Toml.Reader
import Ripple.Toml.Value
import Ripple.Xml.Charset
import Ripple.Xml.Content
import Ripple.Xml.Definition
import Ripple.Xml.Document
import Ripple.Xml.DocumentType
import Ripple.Xml.Element
import Ripple.Xml.Encoding
import Ripple.Xml.Fault
import Ripple.Xml.Name
import Ripple.Xml.Reader
import Ripple.Xml.Token
