import CallRouting.Chain
import CallRouting.Channel
import CallRouting.Clause.Basic
import CallRouting.Clause.Condition
import CallRouting.Clause.Glob
import CallRouting.Clause.Pattern
import CallRouting.Clause.Token
import CallRouting.Clause.Wildcard
import CallRouting.Command.Basic
import CallRouting.Command.Check
import CallRouting.Command.Failure
import CallRouting.Command.Init
import CallRouting.Command.Options
import CallRouting.Command.Route
import CallRouting.Command.Run
import CallRouting.Command.Watch
import CallRouting.Config.Basic
import CallRouting.Config.File
import CallRouting.Config.Starter
import CallRouting.Dict
import CallRouting.Endpoint
import CallRouting.FileTree
import CallRouting.Live
import CallRouting.Main
import CallRouting.Meters
import CallRouting.Pipeline
import CallRouting.Report.Json
import CallRouting.Report.RouteReport
import CallRouting.Report.RuleReport
import CallRouting.Report.Table
import CallRouting.Report.Time
import CallRouting.Report.Tint
import CallRouting.Router
import CallRouting.Rule
import CallRouting.Service
import CallRouting.Snapshot
import CallRouting.Source.Basic
import CallRouting.Source.Directory
import CallRouting.Source.Kinds
import CallRouting.Source.Memory
import CallRouting.Text.Blank
import CallRouting.Text.Decimal
import CallRouting.Text.LetterCase
import CallRouting.Text.Lowercase
import CallRouting.Text.Number
import CallRouting.Text.Quoted
import CallRouting.Text.Search
import CallRouting.Text.Width
import CallRouting.Text.WidthTable
import CallRouting.Toml.Document
import CallRouting.Toml.Fields
import CallRouting.Toml.Number
import CallRouting.Toml.Quoted
import CallRouting.Toml.Text
import CallRouting.Toml.Value
import CallRouting.Yaml.Cursor
import CallRouting.Yaml.Node
import CallRouting.Yaml.Scalar
import CallRouting.Yaml.Token
import CallRouting.Yaml.Value
import CallRouting.Proofs.ChannelLog
import CallRouting.Proofs.SourceRun
import CallRouting.Proofs.LostUpdate
import CallRouting.Proofs.Install
import CallRouting.Proofs.ListenerRun
import CallRouting.Proofs.Convergence
import CallRouting.Proofs.InstallOrder
import CallRouting.Proofs.Destination
import CallRouting.Proofs.PlanCache
import CallRouting.Proofs.Operations
import CallRouting.Proofs.Modes
import CallRouting.Proofs.Versions
import CallRouting.Proofs.Announcements
import CallRouting.Proofs.DictOrder
import CallRouting.Proofs.Tokens
import CallRouting.Proofs.Cutting
import CallRouting.Proofs.ClauseTree
import CallRouting.Proofs.Globs
import CallRouting.Proofs.ConditionText
import CallRouting.Proofs.ClauseText
import CallRouting.Proofs.Narrowing
import CallRouting.Proofs.Words
import CallRouting.Proofs.Grammar
import CallRouting.Proofs.Markers
import CallRouting.Proofs.Streams
import CallRouting.Proofs.Evaluation
import CallRouting.Proofs.Lenience
import CallRouting.Proofs.Polling
import CallRouting.Proofs.RuleKeys
import CallRouting.Proofs.TomlStrings
import CallRouting.Proofs.TomlLines
import CallRouting.Proofs.TextLines
import CallRouting.Proofs.StarterText
import CallRouting.Proofs.TomlEnding
import CallRouting.Proofs.TomlTables
import CallRouting.Proofs.StarterEnding
import CallRouting.Proofs.Decoys
import CallRouting.Proofs.FailedInit
import CallRouting.Proofs.FailedCalls
import CallRouting.Proofs.InactiveRules
import CallRouting.Proofs.ClauseOrder
import CallRouting.Proofs.Printing
import CallRouting.Proofs.CheckedRules
import CallRouting.Proofs.Exclusions
import CallRouting.Proofs.Arguments
import CallRouting.Proofs.StarWords
import CallRouting.Proofs.WrittenParts
