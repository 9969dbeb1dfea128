import PoolLint.CallSite
import PoolLint.Collector
import PoolLint.CommandLine.Command
import PoolLint.CommandLine.Fault
import PoolLint.CommandLine.Options
import PoolLint.CommandLine.Outcome
import PoolLint.Diagnostic
import PoolLint.Event
import PoolLint.Expr
import PoolLint.FileFacts
import PoolLint.Files.Change
import PoolLint.Files.Discovery
import PoolLint.Files.Path
import PoolLint.Files.Resolve
import PoolLint.Files.Tree
import PoolLint.Imports
import PoolLint.Json.Basic
import PoolLint.Json.Parser
import PoolLint.Json.Printer
import PoolLint.Legality.Argument
import PoolLint.Legality.Basic
import PoolLint.Legality.CasePattern
import PoolLint.Legality.Depth
import PoolLint.Legality.Encoding
import PoolLint.Legality.Flow
import PoolLint.Legality.Form
import PoolLint.Legality.Future
import PoolLint.Legality.Margin
import PoolLint.Legality.Names
import PoolLint.Legality.Phrase
import PoolLint.Legality.Quoted
import PoolLint.Legality.Scope
import PoolLint.Legality.Violation
import PoolLint.Legality.Words
import PoolLint.Location
import PoolLint.Lowering
import PoolLint.Main
import PoolLint.Noted
import PoolLint.Numeral.Basic
import PoolLint.Numeral.Binary64
import PoolLint.Numeral.Decimal
import PoolLint.Numeral.Integer
import PoolLint.PoolCheck
import PoolLint.PoolRule
import PoolLint.Proofs.AlikeTrees
import PoolLint.Proofs.AnchoredFindings
import PoolLint.Proofs.BracedTexts
import PoolLint.Proofs.BuiltLocations
import PoolLint.Proofs.CallOrder
import PoolLint.Proofs.CheckedCalls
import PoolLint.Proofs.CollectedFindings
import PoolLint.Proofs.Continuations
import PoolLint.Proofs.DeletedComments
import PoolLint.Proofs.DirectoryWalks
import PoolLint.Proofs.DiscoveredFiles
import PoolLint.Proofs.DumpedModels
import PoolLint.Proofs.FindingOrder
import PoolLint.Proofs.FindingPlaces
import PoolLint.Proofs.FollowedLinks
import PoolLint.Proofs.FoundSources
import PoolLint.Proofs.ImportClauses
import PoolLint.Proofs.ImportedNames
import PoolLint.Proofs.IntegerLiterals
import PoolLint.Proofs.JsonText
import PoolLint.Proofs.KeptTrees
import PoolLint.Proofs.LaidCollections
import PoolLint.Proofs.LaidExpressions
import PoolLint.Proofs.LaidOutTrees
import PoolLint.Proofs.LaidPhrases
import PoolLint.Proofs.LaidPieces
import PoolLint.Proofs.LaidSources
import PoolLint.Proofs.LaidStatements
import PoolLint.Proofs.LaidTokens
import PoolLint.Proofs.LastImports
import PoolLint.Proofs.LifeTimes
import PoolLint.Proofs.LoggedReports
import PoolLint.Proofs.LoweredNodes
import PoolLint.Proofs.MadeDirectories
import PoolLint.Proofs.MergedScans
import PoolLint.Proofs.Outlines
import PoolLint.Proofs.PathResolution
import PoolLint.Proofs.PathSpelling
import PoolLint.Proofs.Places
import PoolLint.Proofs.PlainKeys
import PoolLint.Proofs.PoolFindings
import PoolLint.Proofs.PositionalBinding
import PoolLint.Proofs.ReadingDepth
import PoolLint.Proofs.ReadingSteps
import PoolLint.Proofs.RecordSpellings
import PoolLint.Proofs.RelatedArguments
import PoolLint.Proofs.ReportDocuments
import PoolLint.Proofs.ReportLines
import PoolLint.Proofs.ReportedValues
import PoolLint.Proofs.RewrappedBlocks
import PoolLint.Proofs.RewrappedCollections
import PoolLint.Proofs.RewrappedExpressions
import PoolLint.Proofs.RewrappedFindings
import PoolLint.Proofs.RewrappedImports
import PoolLint.Proofs.RewrappedPhrases
import PoolLint.Proofs.RewrappedReading
import PoolLint.Proofs.RewrappedStatements
import PoolLint.Proofs.RewrappedTrees
import PoolLint.Proofs.RootSpellings
import PoolLint.Proofs.RootedTrees
import PoolLint.Proofs.ScannedTrees
import PoolLint.Proofs.Shortfalls
import PoolLint.Proofs.ShownPaths
import PoolLint.Proofs.Signature
import PoolLint.Proofs.SkippedFiles
import PoolLint.Proofs.ThinnedTrees
import PoolLint.Report.Basic
import PoolLint.Report.Row
import PoolLint.Report.Writer
import PoolLint.RuleConfig
import PoolLint.Scan.Directory
import PoolLint.Scan.Fault
import PoolLint.Scan.File
import PoolLint.Scan.Search
import PoolLint.Scan.Source
import PoolLint.Schema.Config
import PoolLint.Schema.Dump
import PoolLint.Schema.Model
import PoolLint.Schema.Problem
import PoolLint.Schema.Scalar
import PoolLint.Schema.Search
import PoolLint.Syntax.Grammar.CasePattern
import PoolLint.Syntax.Grammar.Collection
import PoolLint.Syntax.Grammar.Compound
import PoolLint.Syntax.Grammar.Expression
import PoolLint.Syntax.Grammar.Parameter
import PoolLint.Syntax.Grammar.Phrase
import PoolLint.Syntax.Grammar.Quoted
import PoolLint.Syntax.Grammar.Simple
import PoolLint.Syntax.Node
import PoolLint.Syntax.Parser
import PoolLint.Syntax.Piece
import PoolLint.Syntax.Position
import PoolLint.Syntax.Token
import PoolLint.Syntax.Token.Layout
import PoolLint.Syntax.Token.Number
import PoolLint.Syntax.Token.Quote
import PoolLint.Syntax.Token.Reader
import PoolLint.Syntax.Tree
import PoolLint.Text.Blank
import PoolLint.Text.CharacterName
import PoolLint.Text.CharacterNameWords
import PoolLint.Text.Digit
import PoolLint.Text.Identifier
import PoolLint.Text.IdentifierRanges
import PoolLint.Text.Pieces
import PoolLint.Text.Quoted
import PoolLint.Text.Ranges
import PoolLint.Text.UnprintableRanges
import PoolLint.Text.Utf8
import PoolLint.Yaml.Implicit
import PoolLint.Yaml.Printer
import PoolLint.Yaml.Scalar
