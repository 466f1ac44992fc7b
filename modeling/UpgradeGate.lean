import UpgradeGate.Builtin
import UpgradeGate.Check.Basic
import UpgradeGate.Check.Catalogue
import UpgradeGate.Cluster.Object
import UpgradeGate.Cluster.Snapshot
import UpgradeGate.Cluster.Store
import UpgradeGate.Command.Line
import UpgradeGate.Command.Run
import UpgradeGate.Decimal
import UpgradeGate.Diagnosis.Basic
import UpgradeGate.Diagnosis.Json
import UpgradeGate.Dict
import UpgradeGate.Glob
import UpgradeGate.Instant
import UpgradeGate.Json.Basic
import UpgradeGate.Json.Document
import UpgradeGate.Main
import UpgradeGate.Pipeline
import UpgradeGate.Problem
import UpgradeGate.Report
import UpgradeGate.Run.Execution
import UpgradeGate.Run.Step
import UpgradeGate.Settings
import UpgradeGate.Text.Basic
import UpgradeGate.Text.Quoted
import UpgradeGate.Toml.Basic
import UpgradeGate.Toml.Reading
import UpgradeGate.Version
import UpgradeGate.Yaml.Loading
import UpgradeGate.Yaml.Node
import UpgradeGate.Yaml.Printer
import UpgradeGate.Yaml.Scalar
import UpgradeGate.Yaml.Token
import UpgradeGate.Yaml.Token.Lexer
import UpgradeGate.Proofs.Builtin.Answers
import UpgradeGate.Proofs.Builtin.Impact
import UpgradeGate.Proofs.Builtin.Migration
import UpgradeGate.Proofs.Builtin.Reading
import UpgradeGate.Proofs.Builtin.Subject
import UpgradeGate.Proofs.Builtin.Weight
import UpgradeGate.Proofs.Check.Literal
import UpgradeGate.Proofs.Check.Registration
import UpgradeGate.Proofs.Check.Session
import UpgradeGate.Proofs.Cluster.Agreement
import UpgradeGate.Proofs.Cluster.History
import UpgradeGate.Proofs.Cluster.Listing
import UpgradeGate.Proofs.Cluster.Loading
import UpgradeGate.Proofs.Cluster.Snapshot
import UpgradeGate.Proofs.Command.Conduct
import UpgradeGate.Proofs.Command.Course
import UpgradeGate.Proofs.Command.Delivery
import UpgradeGate.Proofs.Command.Evidence
import UpgradeGate.Proofs.Command.Flags
import UpgradeGate.Proofs.Decimal
import UpgradeGate.Proofs.Diagnosis.AnnotationKey
import UpgradeGate.Proofs.Diagnosis.FirstFlaw
import UpgradeGate.Proofs.Diagnosis.KeyPattern
import UpgradeGate.Proofs.Diagnosis.Rereading
import UpgradeGate.Proofs.Diagnosis.Soundness
import UpgradeGate.Proofs.Diagnosis.Upsert
import UpgradeGate.Proofs.Dict
import UpgradeGate.Proofs.Effects
import UpgradeGate.Proofs.Gate
import UpgradeGate.Proofs.Instant
import UpgradeGate.Proofs.Json.Printing
import UpgradeGate.Proofs.Json.Reading
import UpgradeGate.Proofs.Json.Record
import UpgradeGate.Proofs.Pipeline.Component
import UpgradeGate.Proofs.Pipeline.ComponentCourse
import UpgradeGate.Proofs.Pipeline.Governing
import UpgradeGate.Proofs.Pipeline.Headers
import UpgradeGate.Proofs.Pipeline.Inquiry
import UpgradeGate.Proofs.Pipeline.Namespace
import UpgradeGate.Proofs.Pipeline.Precondition
import UpgradeGate.Proofs.Pipeline.Recording
import UpgradeGate.Proofs.Pipeline.Workload
import UpgradeGate.Proofs.Pipeline.WorkloadCourse
import UpgradeGate.Proofs.Report.Block
import UpgradeGate.Proofs.Report.Colour
import UpgradeGate.Proofs.Report.Document
import UpgradeGate.Proofs.Report.Order
import UpgradeGate.Proofs.Run.Answers
import UpgradeGate.Proofs.Run.Exit
import UpgradeGate.Proofs.Run.Steps
import UpgradeGate.Proofs.Run.Substitution
import UpgradeGate.Proofs.Run.Turns
import UpgradeGate.Proofs.Selection
import UpgradeGate.Proofs.Text
import UpgradeGate.Proofs.Version.Grammar
import UpgradeGate.Proofs.Version.Printing
import UpgradeGate.Proofs.Version.Reading
