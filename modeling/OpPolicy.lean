import OpPolicy.Authority.Call
import OpPolicy.Authority.Client
import OpPolicy.Authority.Shell
import OpPolicy.Cli.Argument
import OpPolicy.Cli.Grammar
import OpPolicy.Cli.Journal
import OpPolicy.Cli.Program
import OpPolicy.Cli.Request
import OpPolicy.Cli.Row
import OpPolicy.Config.Project
import OpPolicy.Config.Section
import OpPolicy.Device.Adb
import OpPolicy.Device.Output
import OpPolicy.Device.Roster
import OpPolicy.Device.Shell
import OpPolicy.Dialogue
import OpPolicy.Error
import OpPolicy.Host.Machine
import OpPolicy.Host.Path
import OpPolicy.Host.Question
import OpPolicy.Host.Search
import OpPolicy.Host.Session
import OpPolicy.Host.Setting
import OpPolicy.Json.Literal
import OpPolicy.Json.Record
import OpPolicy.Json.Value
import OpPolicy.Log
import OpPolicy.Log.Filter
import OpPolicy.Main
import OpPolicy.Mode
import OpPolicy.Op.Basic
import OpPolicy.Op.Catalogue
import OpPolicy.Op.Reference
import OpPolicy.Op.Table
import OpPolicy.Package.Allowlist
import OpPolicy.Package.App
import OpPolicy.Package.Cache
import OpPolicy.Package.Category
import OpPolicy.Package.Listing
import OpPolicy.Package.Monitor
import OpPolicy.Package.Registry
import OpPolicy.Package.Setup
import OpPolicy.Package.Snapshot
import OpPolicy.Pattern.Basic
import OpPolicy.Pattern.Bracket
import OpPolicy.Pattern.CharSet
import OpPolicy.Pattern.Escape
import OpPolicy.Pattern.Options
import OpPolicy.Pattern.Property
import OpPolicy.Pattern.Reader
import OpPolicy.Pattern.Segment
import OpPolicy.Pattern.Size
import OpPolicy.Text.Age
import OpPolicy.Text.AgeTable
import OpPolicy.Text.Blank
import OpPolicy.Text.CategoryTable
import OpPolicy.Text.Fold
import OpPolicy.Text.GeneralCategory
import OpPolicy.Text.Hex
import OpPolicy.Text.Numeral
import OpPolicy.Text.Plain
import OpPolicy.Text.PropertyTable
import OpPolicy.Text.Quoted
import OpPolicy.Text.Ranges
import OpPolicy.Text.Runs
import OpPolicy.Text.Script
import OpPolicy.Text.ScriptTable
import OpPolicy.Text.Split
import OpPolicy.Text.Utf8
import OpPolicy.Toml.Moment
import OpPolicy.Toml.Node
import OpPolicy.Toml.Number
import OpPolicy.Toml.Quoted
import OpPolicy.Toml.Reader
import OpPolicy.Toml.Stamp
import OpPolicy.Toml.Value
import OpPolicy.Proofs.Cache.Alone
import OpPolicy.Proofs.Cache.Cells
import OpPolicy.Proofs.Cache.Exclusion
import OpPolicy.Proofs.Cache.Failure
import OpPolicy.Proofs.Cache.Freshness
import OpPolicy.Proofs.Cache.InTurn
import OpPolicy.Proofs.Cache.Queue
import OpPolicy.Proofs.Cache.Rebuild
import OpPolicy.Proofs.Cache.Reference
import OpPolicy.Proofs.Config.Offender
import OpPolicy.Proofs.Config.Typing
import OpPolicy.Proofs.Config.Way
import OpPolicy.Proofs.Device.Connection
import OpPolicy.Proofs.Device.Failure
import OpPolicy.Proofs.Device.Roster
import OpPolicy.Proofs.Json.Literal
import OpPolicy.Proofs.Json.Record
import OpPolicy.Proofs.Json.Value
import OpPolicy.Proofs.Json.Wire
import OpPolicy.Proofs.Op.Columns
import OpPolicy.Proofs.Op.Permission
import OpPolicy.Proofs.Op.Reference
import OpPolicy.Proofs.Op.Table
import OpPolicy.Proofs.Package.Allowlist
import OpPolicy.Proofs.Package.Category
import OpPolicy.Proofs.Package.Installed
import OpPolicy.Proofs.Package.Listing
import OpPolicy.Proofs.Package.Order
import OpPolicy.Proofs.Package.Partition
import OpPolicy.Proofs.Registry.Calls
import OpPolicy.Proofs.Registry.Following
import OpPolicy.Proofs.Registry.Interleaving
import OpPolicy.Proofs.Registry.Subscription
import OpPolicy.Proofs.Shell.Commands
import OpPolicy.Proofs.Shell.Forwarding
import OpPolicy.Proofs.Shell.Outcome
import OpPolicy.Proofs.Shell.Reply
import OpPolicy.Proofs.Shell.Report
import OpPolicy.Proofs.Shell.Words
import OpPolicy.Proofs.Snapshot
import OpPolicy.Proofs.Text.Blank
import OpPolicy.Proofs.Text.Numeral
import OpPolicy.Proofs.Text.Split
import OpPolicy.Proofs.Text.Utf8
import OpPolicy.Proofs.Text.Words
