import Conch.Text.Blank
import Conch.Text.Printable
import Conch.Text.WordChar
import Conch.Text.DecimalDigit
import Conch.Text.Literal
import Conch.Status
import Conch.Numeral
import Conch.Keyword
import Conch.Words
import Conch.VarRef
import Conch.CommandLine
import Conch.Options
import Conch.Shell.Table
import Conch.Shell.State
import Conch.Text.Lines
import Conch.FileTree
import Conch.Decimal.Shortest
import Conch.Decimal.Parse
import Conch.Config.Setting
import Conch.Config.Convert
import Conch.Config.Store
import Conch.Exec.World
import Conch.Help
import Conch.Builtin.Basic
import Conch.Builtin.Echo
import Conch.Builtin.Variables
import Conch.Builtin.Return
import Conch.Builtin.Define
import Conch.Builtin.Settings
import Conch.Exec.Prefix
import Conch.Exec.Engine
import Conch.Complete
import Conch.Cli.Args
import Conch.Cli.Run
import Conch.Main
import Conch.Proofs.CommandPrefix
import Conch.Proofs.Triple
import Conch.Proofs.Footprint
import Conch.Proofs.EngineRules
import Conch.Proofs.Unwind
import Conch.Proofs.Pipelines
import Conch.Proofs.Invariant
import Conch.Proofs.CallStack
import Conch.Proofs.LastStatus
import Conch.Proofs.SessionSteps
import Conch.Proofs.Consistency
import Conch.Proofs.Termination
import Conch.Proofs.GuardKeywords
import Conch.Proofs.DefinitionRoundTrip
import Conch.Proofs.NumeralReading
import Conch.Proofs.ScanProgress
import Conch.Proofs.OptionScan
import Conch.Proofs.ReturnOutcome
import Conch.Proofs.OutputFrame
import Conch.Proofs.PipeStages
import Conch.Proofs.LineGroups
import Conch.Proofs.AssignmentWords
import Conch.Proofs.ScriptLines
import Conch.Proofs.KeywordPlan
import Conch.Proofs.ConfigPaths
import Conch.Proofs.HistoryChoices
import Conch.Proofs.SegmentCompletion
import Conch.Proofs.ReferenceSubstitution
import Conch.Proofs.EchoWords
