import TestFleet.Action
import TestFleet.Backend
import TestFleet.Backend.Command
import TestFleet.Backend.DryRun
import TestFleet.CommandLine.Help
import TestFleet.CommandLine.Program
import TestFleet.CommandLine.Request
import TestFleet.Config.Document
import TestFleet.Config.Error
import TestFleet.Config.Load
import TestFleet.Config.Schema
import TestFleet.Datum
import TestFleet.Datum.Record
import TestFleet.Decimal.Notation
import TestFleet.Decimal.Shortest
import TestFleet.Device
import TestFleet.Device.Document
import TestFleet.Files.Failure
import TestFleet.Files.Path
import TestFleet.Files.Tree
import TestFleet.Host
import TestFleet.Json.Number
import TestFleet.Json.Parser
import TestFleet.Json.Printer
import TestFleet.Json.Records
import TestFleet.Main
import TestFleet.Order.Ascending
import TestFleet.Plugin.Builtin
import TestFleet.Plugin.Point
import TestFleet.Plugin.Registry
import TestFleet.Pooling
import TestFleet.Proofs.Backend.Command
import TestFleet.Proofs.Plugin.Builtin
import TestFleet.Proofs.Pooling.Partition
import TestFleet.Proofs.Report.JUnit.Legality
import TestFleet.Proofs.Report.JUnit.Outline
import TestFleet.Proofs.Rule.Calls
import TestFleet.Proofs.Rule.Calm
import TestFleet.Proofs.Rule.Pipeline
import TestFleet.Proofs.Rule.Preserving
import TestFleet.Proofs.Rule.Stages
import TestFleet.Proofs.Rule.Status
import TestFleet.Proofs.Rule.Template
import TestFleet.Proofs.Rule.Unwinding
import TestFleet.Proofs.Run.Account
import TestFleet.Proofs.Run.Allowance
import TestFleet.Proofs.Run.Answers
import TestFleet.Proofs.Run.ArtifactRoot
import TestFleet.Proofs.Run.Attempts
import TestFleet.Proofs.Run.Balance
import TestFleet.Proofs.Run.Booking
import TestFleet.Proofs.Run.Bracketing
import TestFleet.Proofs.Run.CallingOff
import TestFleet.Proofs.Run.Calls
import TestFleet.Proofs.Run.Cause
import TestFleet.Proofs.Run.Course
import TestFleet.Proofs.Run.Eligibility
import TestFleet.Proofs.Run.Ending
import TestFleet.Proofs.Run.Exclusive
import TestFleet.Proofs.Run.Execution
import TestFleet.Proofs.Run.FinalRecord
import TestFleet.Proofs.Run.Identity
import TestFleet.Proofs.Run.InTurn
import TestFleet.Proofs.Run.Numbering
import TestFleet.Proofs.Run.Outcomes
import TestFleet.Proofs.Run.Plan
import TestFleet.Proofs.Run.Pool
import TestFleet.Proofs.Run.Preflight
import TestFleet.Proofs.Run.Quota
import TestFleet.Proofs.Run.Reordering
import TestFleet.Proofs.Run.Schedule
import TestFleet.Proofs.Run.Status
import TestFleet.Proofs.Run.StepCalls
import TestFleet.Proofs.Run.Stranded
import TestFleet.Proofs.Run.Telling
import TestFleet.Proofs.Run.Termination
import TestFleet.Proofs.Run.Worker
import TestFleet.Proofs.Suite
import TestFleet.Proofs.Work.Board
import TestFleet.Proofs.Work.Lineage
import TestFleet.Proofs.Work.Queue
import TestFleet.Proofs.Work.Retry
import TestFleet.Provider
import TestFleet.Random.Shuffle
import TestFleet.Random.Stream
import TestFleet.Regex.Bracket
import TestFleet.Regex.Escape
import TestFleet.Regex.Parser
import TestFleet.Regex.Pattern
import TestFleet.Regex.Room
import TestFleet.Rehearsal
import TestFleet.Rehearsal.Components
import TestFleet.Rehearsal.Scripted
import TestFleet.Rehearsal.Tracking
import TestFleet.Report
import TestFleet.Report.Console
import TestFleet.Report.File
import TestFleet.Report.JUnit
import TestFleet.Report.Json
import TestFleet.Result
import TestFleet.Result.Document
import TestFleet.Rule
import TestFleet.Rule.Attempt
import TestFleet.Rule.Hook
import TestFleet.Rule.Pipeline
import TestFleet.Rule.Placeholder
import TestFleet.Run.Attempt
import TestFleet.Run.Context
import TestFleet.Run.Document
import TestFleet.Run.Error
import TestFleet.Run.Execute
import TestFleet.Run.Identifier
import TestFleet.Run.Machine
import TestFleet.Run.Plan
import TestFleet.Run.Pool
import TestFleet.Run.Result
import TestFleet.Run.Worker
import TestFleet.Scope
import TestFleet.Shell.Arithmetic
import TestFleet.Shell.Builtin
import TestFleet.Shell.Condition
import TestFleet.Shell.Disk
import TestFleet.Shell.Evaluation
import TestFleet.Shell.Fields
import TestFleet.Shell.Glob
import TestFleet.Shell.Mode
import TestFleet.Shell.Parser
import TestFleet.Shell.Printing
import TestFleet.Shell.Process
import TestFleet.Shell.Program
import TestFleet.Shell.Program.Calendar
import TestFleet.Shell.Program.Call
import TestFleet.Shell.Program.Content
import TestFleet.Shell.Program.Copies
import TestFleet.Shell.Program.Dump
import TestFleet.Shell.Program.Edit
import TestFleet.Shell.Program.EditScript
import TestFleet.Shell.Program.Entries
import TestFleet.Shell.Program.Expression
import TestFleet.Shell.Program.Listing
import TestFleet.Shell.Program.Reckoning
import TestFleet.Shell.Program.Runner
import TestFleet.Shell.Program.Search
import TestFleet.Shell.Program.Table
import TestFleet.Shell.Quoting
import TestFleet.Shell.Script
import TestFleet.Shell.Session
import TestFleet.Shell.Source
import TestFleet.Status
import TestFleet.Suite
import TestFleet.Suite.Rule
import TestFleet.TestCase
import TestFleet.TestCase.Document
import TestFleet.Text.Blank
import TestFleet.Text.Bytewise
import TestFleet.Text.Expansion
import TestFleet.Text.Quoted
import TestFleet.Text.Replace
import TestFleet.Text.Utf8
import TestFleet.Time.Moment
import TestFleet.Time.Span
import TestFleet.Toml.DateTime
import TestFleet.Toml.Parser
import TestFleet.Toml.Scalar
import TestFleet.Unicode.Age
import TestFleet.Unicode.Breaks
import TestFleet.Unicode.Category
import TestFleet.Unicode.Classes
import TestFleet.Unicode.Derived
import TestFleet.Unicode.Folding
import TestFleet.Unicode.Newcomer
import TestFleet.Unicode.Octets
import TestFleet.Unicode.Property
import TestFleet.Unicode.Ranges
import TestFleet.Unicode.Script
import TestFleet.Unicode.ScriptExtension
import TestFleet.Work.Board
import TestFleet.Work.Collector
import TestFleet.Work.Item
import TestFleet.Work.Plan
import TestFleet.Work.Queue
import TestFleet.Work.Retry
import TestFleet.Xml.Document
