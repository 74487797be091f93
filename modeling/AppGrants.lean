import AppGrants.Catalog.Feed
import AppGrants.Catalog.Filters
import AppGrants.Catalog.Group
import AppGrants.Catalog.Order
import AppGrants.Catalog.OwnerName
import AppGrants.Catalog.Records
import AppGrants.Catalog.Search
import AppGrants.CommandLine.Arguments
import AppGrants.CommandLine.Overview
import AppGrants.CommandLine.Program
import AppGrants.CommandLine.Usage
import AppGrants.Decimal.Double
import AppGrants.Decimal.Places
import AppGrants.Failure
import AppGrants.Files.Path
import AppGrants.Files.Tree
import AppGrants.Helper.Backend
import AppGrants.Helper.Command
import AppGrants.Helper.Listing
import AppGrants.Helper.Serve
import AppGrants.Helper.Spawned
import AppGrants.Json.Codec
import AppGrants.Json.Conform
import AppGrants.Json.Doc
import AppGrants.Json.Fault
import AppGrants.Json.Print
import AppGrants.Json.Read
import AppGrants.Json.Scan
import AppGrants.Json.Shape
import AppGrants.Json.Skip
import AppGrants.Logs.Retention
import AppGrants.Logs.Setup
import AppGrants.Machine.Condition
import AppGrants.Machine.Dialogue
import AppGrants.Machine.Filter
import AppGrants.Machine.Format
import AppGrants.Machine.Options
import AppGrants.Machine.Signal
import AppGrants.Machine.System
import AppGrants.Machine.Utility
import AppGrants.Machine.World
import AppGrants.Outcome
import AppGrants.Package
import AppGrants.Profile
import AppGrants.ProfileStore
import AppGrants.Record
import AppGrants.Proofs.Catalog.Records
import AppGrants.Proofs.Refresh.Coherence
import AppGrants.Proofs.Refresh.History
import AppGrants.Proofs.Refresh.Orders
import AppGrants.Proofs.Refresh.Records
import AppGrants.Proofs.Refresh.Resorting
import AppGrants.Proofs.Refresh.Results
import AppGrants.Proofs.Refresh.SingleFlight
import AppGrants.Proofs.Refresh.Turn
import AppGrants.Proofs.Refresh.Views
import AppGrants.Proofs.Catalog.Coherence
import AppGrants.Proofs.Catalog.Grouping
import AppGrants.Proofs.Catalog.Patching
import AppGrants.Proofs.Catalog.Ranks
import AppGrants.Refresh.Engine
import AppGrants.Refresh.Session
import AppGrants.Service.Capabilities
import AppGrants.Service.Channel
import AppGrants.Service.Connection
import AppGrants.Service.Elevation
import AppGrants.Service.HelperHost
import AppGrants.Service.Host
import AppGrants.Service.Pool
import AppGrants.Service.Script
import AppGrants.Service.Wire
import AppGrants.Settings.Load
import AppGrants.Settings.Log
import AppGrants.Settings.Manager
import AppGrants.Shell.Arithmetic
import AppGrants.Shell.Builtin
import AppGrants.Shell.Builtin.Basic
import AppGrants.Shell.Builtin.Signals
import AppGrants.Shell.Builtin.Variables
import AppGrants.Shell.Connection
import AppGrants.Shell.Expansion
import AppGrants.Shell.Fields
import AppGrants.Shell.Frame
import AppGrants.Shell.Glob
import AppGrants.Shell.Grammar
import AppGrants.Shell.Pattern
import AppGrants.Shell.Program
import AppGrants.Shell.Run
import AppGrants.Shell.Syntax
import AppGrants.Shell.Token
import AppGrants.Text.Alphanumeric
import AppGrants.Text.Blank
import AppGrants.Text.CaseMap
import AppGrants.Text.Digit
import AppGrants.Text.Lowercase
import AppGrants.Text.Numeral
import AppGrants.Text.Octets
import AppGrants.Text.Order
import AppGrants.Text.Pinyin
import AppGrants.Text.Quoted
import AppGrants.Text.Ranges
import AppGrants.Text.Unprintable
import AppGrants.Text.Utf8
import AppGrants.Uid
import AppGrants.Proofs.Refresh.Incremental
import AppGrants.Proofs.Refresh.Reloading
import AppGrants.Proofs.Refresh.Flags
import AppGrants.Proofs.Service.Failures
import AppGrants.Proofs.Refresh.Blame
import AppGrants.Proofs.Refresh.Restoring
import AppGrants.Proofs.Refresh.Publications
import AppGrants.Proofs.Service.Sight
import AppGrants.Proofs.Service.Uses
import AppGrants.Proofs.Service.Exchanges
import AppGrants.Proofs.Service.Serving
import AppGrants.Proofs.Service.Ledger
import AppGrants.Proofs.Service.Accounts
import AppGrants.Proofs.Service.Releasing
import AppGrants.Proofs.Service.Settling
import AppGrants.Proofs.Service.Retrying
import AppGrants.Proofs.Service.Probing
import AppGrants.Proofs.Text.Lines
import AppGrants.Proofs.Text.Utf8
import AppGrants.Proofs.Json.Printing
import AppGrants.Proofs.Json.Reading
import AppGrants.Proofs.Json.Records
import AppGrants.Proofs.Service.Wire
import AppGrants.Proofs.Text.Order
import AppGrants.Proofs.Json.Sorting
import AppGrants.Proofs.Json.Conforming
import AppGrants.Proofs.Service.Payloads
import AppGrants.Proofs.Json.Success
import AppGrants.Proofs.Helper.Answering
import AppGrants.Proofs.Service.Conversation
import AppGrants.Proofs.Catalog.Partition
import AppGrants.Proofs.Helper.Surviving
import AppGrants.Proofs.Json.RoundTrips
import AppGrants.Proofs.Service.Protocol
import AppGrants.Proofs.Catalog.Listing
import AppGrants.Proofs.Catalog.Searching
import AppGrants.Proofs.Catalog.Naming
import AppGrants.Proofs.Catalog.Titles
import AppGrants.Proofs.Helper.Numerals
import AppGrants.Proofs.Helper.UserListing
import AppGrants.Proofs.Helper.PackageListing
import AppGrants.Proofs.Helper.Enumerating
import AppGrants.Proofs.Shell.Inert
import AppGrants.Proofs.Shell.Reading
import AppGrants.Proofs.Shell.Simple
import AppGrants.Proofs.Service.Elevation
import AppGrants.Proofs.Catalog.Joining
import AppGrants.Proofs.Catalog.Storing
import AppGrants.Proofs.Refresh.Grants
import AppGrants.Proofs.Lookup
import AppGrants.Proofs.Json.Grammar
import AppGrants.Proofs.Json.Lexing
import AppGrants.Proofs.Json.Skipping
import AppGrants.Proofs.Json.Passing
import AppGrants.Proofs.Json.Stepping
import AppGrants.Proofs.Json.Clashing
import AppGrants.Proofs.Json.Drafts
import AppGrants.Proofs.Json.Defaults
import AppGrants.Proofs.Files.Writing
import AppGrants.Proofs.Settings.Stability
import AppGrants.Proofs.Failure.Building
import AppGrants.Proofs.Failure.Collecting
import AppGrants.Proofs.Failure.Discretion
import AppGrants.Proofs.Failure.Growing
import AppGrants.Proofs.Files.Erasing
import AppGrants.Proofs.Logs.Retention
import AppGrants.Proofs.Catalog.Comparing
