import RuntimeLocator.Cli.Arguments
import RuntimeLocator.Cli.DotEnv
import RuntimeLocator.Cli.Failure
import RuntimeLocator.Cli.Files
import RuntimeLocator.Cli.Run
import RuntimeLocator.Decimal.Shortest
import RuntimeLocator.Environment
import RuntimeLocator.Json.Decode
import RuntimeLocator.Json.Fault
import RuntimeLocator.Json.Number
import RuntimeLocator.Json.Print
import RuntimeLocator.Json.Reader
import RuntimeLocator.Json.Skip
import RuntimeLocator.Json.Text
import RuntimeLocator.Lookup.Failure
import RuntimeLocator.Lookup.ReadString
import RuntimeLocator.Lookup.Resolve
import RuntimeLocator.Lookup.Script
import RuntimeLocator.Lookup.Store
import RuntimeLocator.Main
import RuntimeLocator.Path.Buffer
import RuntimeLocator.Registry.Basic
import RuntimeLocator.Registry.Failure
import RuntimeLocator.Registry.Hive
import RuntimeLocator.Registry.NameMap
import RuntimeLocator.Registry.Snapshot
import RuntimeLocator.Registry.Value
import RuntimeLocator.Registry.Value.Json
import RuntimeLocator.Registry.Value.Native
import RuntimeLocator.Session
import RuntimeLocator.Settings
import RuntimeLocator.Settings.Json
import RuntimeLocator.Text.Alphanumeric
import RuntimeLocator.Text.Alphanumeric.Table
import RuntimeLocator.Text.Blank
import RuntimeLocator.Text.LowerCase
import RuntimeLocator.Text.LowerCase.Table
import RuntimeLocator.Text.Quoted
import RuntimeLocator.Text.Quoted.Table
import RuntimeLocator.Text.Ranges
import RuntimeLocator.Text.Utf16
import RuntimeLocator.Text.Utf8
import RuntimeLocator.Proofs.Json.Decode
import RuntimeLocator.Proofs.Json.Number
import RuntimeLocator.Proofs.Json.Text
import RuntimeLocator.Proofs.Lookup.Answers
import RuntimeLocator.Proofs.Lookup.Reading
import RuntimeLocator.Proofs.Lookup.Resolution
import RuntimeLocator.Proofs.Lookup.Run
import RuntimeLocator.Proofs.Lookup.Tiers
import RuntimeLocator.Proofs.Path.Capacity
import RuntimeLocator.Proofs.Path.Components
import RuntimeLocator.Proofs.Registry.Alike
import RuntimeLocator.Proofs.Registry.Finding
import RuntimeLocator.Proofs.Registry.NameMap
import RuntimeLocator.Proofs.Registry.Native
import RuntimeLocator.Proofs.Registry.ReadBack
import RuntimeLocator.Proofs.Registry.Respelling
import RuntimeLocator.Proofs.Registry.Snapshot
import RuntimeLocator.Proofs.Registry.View
import RuntimeLocator.Proofs.Session.Families
import RuntimeLocator.Proofs.Settings.Json
import RuntimeLocator.Proofs.Text.LowerCase
import RuntimeLocator.Proofs.Text.Utf16
import RuntimeLocator.Proofs.Lookup.Dependence
import RuntimeLocator.Proofs.Lookup.Room
import RuntimeLocator.Proofs.Lookup.Retry
import RuntimeLocator.Proofs.Lookup.Status
import RuntimeLocator.Proofs.Lookup.Terminators
import RuntimeLocator.Proofs.Session.Accounting
import RuntimeLocator.Proofs.Session.Handles
import RuntimeLocator.Proofs.Session.Denial
import RuntimeLocator.Proofs.Registry.Decoding
import RuntimeLocator.Proofs.Path.Seam
import RuntimeLocator.Proofs.Lookup.Budget
import RuntimeLocator.Proofs.Cli.Loading
import RuntimeLocator.Proofs.Cli.Endings
import RuntimeLocator.Proofs.Path.Successive
import RuntimeLocator.Proofs.Registry.Commuting
import RuntimeLocator.Proofs.Json.Grammar
import RuntimeLocator.Proofs.Json.Skipping
import RuntimeLocator.Proofs.Json.Layout
import RuntimeLocator.Proofs.Settings.Overrides
import RuntimeLocator.Proofs.Settings.Rules
import RuntimeLocator.Proofs.Cli.Naming
import RuntimeLocator.Proofs.Cli.Sources
import RuntimeLocator.Proofs.Cli.Screening
import RuntimeLocator.Proofs.Cli.Accepting
import RuntimeLocator.Proofs.Cli.Writing
import RuntimeLocator.Proofs.Registry.Duplicates
import RuntimeLocator.Proofs.Environment
import RuntimeLocator.Proofs.Cli.Aborting
