import CodeCensus.Calendar.Date
import CodeCensus.Calendar.Timestamp
import CodeCensus.CommandLine.Arguments
import CodeCensus.CommandLine.Console
import CodeCensus.CommandLine.Option
import CodeCensus.CommandLine.Run
import CodeCensus.CommandLine.Word
import CodeCensus.Digest
import CodeCensus.Duplicate.Advice
import CodeCensus.Duplicate.Exact
import CodeCensus.Duplicate.Group
import CodeCensus.Duplicate.Jaccard
import CodeCensus.Duplicate.Similar
import CodeCensus.Language.Basic
import CodeCensus.Language.Pattern
import CodeCensus.Language.PatternText
import CodeCensus.Language.Profile
import CodeCensus.Language.Table
import CodeCensus.Language.Tables
import CodeCensus.Main
import CodeCensus.Metrics.Advice
import CodeCensus.Metrics.Aggregate
import CodeCensus.Metrics.File
import CodeCensus.Metrics.Totals
import CodeCensus.Notice
import CodeCensus.Number.Basic
import CodeCensus.Number.Double
import CodeCensus.Number.Parse
import CodeCensus.Number.Shortest
import CodeCensus.Number.Text
import CodeCensus.Number.Total
import CodeCensus.OrderedMap
import CodeCensus.Proofs.AcceptedSettings
import CodeCensus.Proofs.BlockSpans
import CodeCensus.Proofs.ExactGroups
import CodeCensus.Proofs.GatheredFiles
import CodeCensus.Proofs.Jaccard
import CodeCensus.Proofs.NumberValue
import CodeCensus.Proofs.PrunedScans
import CodeCensus.Proofs.Pruning
import CodeCensus.Proofs.ReportedPairs
import CodeCensus.Proofs.Rounding
import CodeCensus.Proofs.Scan
import CodeCensus.Proofs.ShownMetrics
import CodeCensus.Proofs.ShownReport
import CodeCensus.Proofs.SimilarPairs
import CodeCensus.Proofs.StoppedScan
import CodeCensus.Proofs.SuccessfulRuns
import CodeCensus.Proofs.TreePlaces
import CodeCensus.Proofs.WalkedFiles
import CodeCensus.Proofs.WatchCoverage
import CodeCensus.Proofs.WatchInterleaving
import CodeCensus.Proofs.WatchRelevance
import CodeCensus.Proofs.WatchSpacing
import CodeCensus.Run.Duplicates
import CodeCensus.Run.Failure
import CodeCensus.Run.Gather
import CodeCensus.Run.Metrics
import CodeCensus.Run.Host
import CodeCensus.Settings.Analysis
import CodeCensus.Settings.Document
import CodeCensus.Settings.Override
import CodeCensus.Settings.Starter
import CodeCensus.Settings.Threshold
import CodeCensus.Source.Block
import CodeCensus.Source.Canonical
import CodeCensus.Source.Lines
import CodeCensus.Source.Token
import CodeCensus.Template.Basic
import CodeCensus.Template.Builtin
import CodeCensus.Template.Kind
import CodeCensus.Template.KindMembers
import CodeCensus.Template.Member
import CodeCensus.Template.Read
import CodeCensus.Template.Render
import CodeCensus.Template.Report
import CodeCensus.Template.Thing
import CodeCensus.Template.Tree
import CodeCensus.Template.ValueMembers
import CodeCensus.Text.Blank
import CodeCensus.Text.CaseTable
import CodeCensus.Text.CodeRange
import CodeCensus.Text.DecimalDigit
import CodeCensus.Text.Leading
import CodeCensus.Text.Lines
import CodeCensus.Text.LowerCase
import CodeCensus.Text.NameChar
import CodeCensus.Text.Offence
import CodeCensus.Text.Pieces
import CodeCensus.Text.Printable
import CodeCensus.Text.Quoted
import CodeCensus.Text.Utf8
import CodeCensus.Text.WordChar
import CodeCensus.Tree.File
import CodeCensus.Tree.Node
import CodeCensus.Tree.Path
import CodeCensus.Tree.Walk
import CodeCensus.Tree.Write
import CodeCensus.Value.Arithmetic
import CodeCensus.Value.Basic
import CodeCensus.Value.Digits
import CodeCensus.Value.Fields
import CodeCensus.Value.Json
import CodeCensus.Value.SetOrder
import CodeCensus.Value.Sort
import CodeCensus.Watch.Event
import CodeCensus.Watch.Loop
import CodeCensus.Watch.State
import CodeCensus.Yaml.Assembly
import CodeCensus.Yaml.Cursor
import CodeCensus.Yaml.Document
import CodeCensus.Yaml.Fault
import CodeCensus.Yaml.Node
import CodeCensus.Yaml.Scalar
import CodeCensus.Yaml.ScalarText
import CodeCensus.Yaml.Scan
import CodeCensus.Yaml.Stream
import CodeCensus.Yaml.Tag
import CodeCensus.Yaml.Token
import CodeCensus.Proofs.ReportFigures
import CodeCensus.Proofs.MetricsTotals
import CodeCensus.Proofs.TextKeys
import CodeCensus.Proofs.WorkerPool
import CodeCensus.Proofs.LoadedKeys
import CodeCensus.Proofs.OptionLayers
import CodeCensus.Proofs.DoubleOrder
import CodeCensus.Proofs.DatedTimes
import CodeCensus.Proofs.MetricsRuns
import CodeCensus.Proofs.CheckedRuns
import CodeCensus.Proofs.StartedRuns
import CodeCensus.Proofs.FileThresholds
import CodeCensus.Proofs.CodeRuns
import CodeCensus.Proofs.TrailingComments
import CodeCensus.Proofs.LargeFiles
import CodeCensus.Proofs.RepeatedContent
import CodeCensus.Proofs.LowerCase
import CodeCensus.Proofs.CanonicalText
import CodeCensus.Proofs.LayoutAndCase
import CodeCensus.Proofs.TokenParts
import CodeCensus.Proofs.BlockTexts
import CodeCensus.Proofs.CancelledScan
import CodeCensus.Proofs.DiscoveryOrder
import CodeCensus.Proofs.RunningMean
import CodeCensus.Proofs.SetSimilarity
import CodeCensus.Proofs.KeywordCounts
import CodeCensus.Proofs.RegisteredPatterns
import CodeCensus.Proofs.SettingsRules
import CodeCensus.Proofs.ThresholdsReadBack
import CodeCensus.Proofs.LinesOfText
import CodeCensus.Proofs.CodeLineTotals
import CodeCensus.Proofs.TemplateViews
import CodeCensus.Proofs.SummaryOnly
