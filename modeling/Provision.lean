import Provision.Catalog
import Provision.Cli.Arguments
import Provision.Cli.Invoke
import Provision.Cli.Options
import Provision.Data.SortedMap
import Provision.Engine.Binding
import Provision.Engine.Goal
import Provision.Engine.Host
import Provision.Engine.Loading
import Provision.Engine.Outcome
import Provision.Engine.Plan
import Provision.Engine.Reserving
import Provision.Engine.Run
import Provision.Engine.Setup
import Provision.Engine.State
import Provision.Engine.Survey
import Provision.Engine.Teardown
import Provision.Error
import Provision.Files.Operations
import Provision.Files.RunLock
import Provision.Files.Tree
import Provision.Files.Walk
import Provision.Hugepages
import Provision.Journal
import Provision.Json.Basic
import Provision.Json.Printer
import Provision.Json.Reader
import Provision.KernelModule
import Provision.Main
import Provision.Os.Call
import Provision.OsError
import Provision.Path
import Provision.Pci.Address
import Provision.Pci.Device
import Provision.Pci.Listing
import Provision.Program
import Provision.Proofs.Contract.Host
import Provision.Proofs.Contract.Program
import Provision.Report.Encode
import Provision.Report.Render
import Provision.Settings
import Provision.Shell.CommandLine
import Provision.Shell.Outcome
import Provision.Simulation.Check
import Provision.Simulation.Host
import Provision.Simulation.Machine
import Provision.Simulation.Snapshot
import Provision.Simulation.Topology
import Provision.Store.Call
import Provision.Store.Fault
import Provision.Sysfs.Metadata
import Provision.Sysfs.Store
import Provision.Text.Blank
import Provision.Text.Content
import Provision.Text.Numeral
import Provision.Text.Quoted
import Provision.Text.Timestamp
import Provision.Text.Visible
import Provision.Toml.Basic
import Provision.Toml.Lexical
import Provision.Toml.Reader
import Provision.Proofs.Contract.Engine
import Provision.Proofs.Footprint
import Provision.Proofs.Contract.World
import Provision.Proofs.ReservedDevices
import Provision.Proofs.Simulation.View
import Provision.Proofs.Rollback
import Provision.Proofs.HomeDriver
import Provision.Proofs.Histories
import Provision.Proofs.FixedPoint
import Provision.Proofs.Shell.CommandWords
import Provision.Proofs.Untouched
import Provision.Proofs.RollbackOrder
import Provision.Proofs.Teardown.ByDevice
import Provision.Proofs.Inspection
import Provision.Proofs.Mirror
import Provision.Proofs.Skipping
import Provision.Proofs.Contract.Marks
import Provision.Proofs.Refusal
import Provision.Proofs.Files.Routes
import Provision.Proofs.Files.Walks
import Provision.Proofs.Files.Site
import Provision.Proofs.Contract.Machine
import Provision.Proofs.Records.ReadBack
import Provision.Proofs.Records.DurableMap
import Provision.Proofs.Teardown.Forecast
import Provision.Proofs.Teardown.Repetition
import Provision.Proofs.Teardown.Isolation
import Provision.Proofs.Candidates
import Provision.Proofs.Setup.Forecast
import Provision.Proofs.Contract.Log
import Provision.Proofs.Setup.Accounts
import Provision.Proofs.Files.Opening
import Provision.Proofs.Files.RunLocks
import Provision.Proofs.Setup.Making
import Provision.Proofs.Setup.Batches
import Provision.Proofs.Contract.System
import Provision.Proofs.HandOver
import Provision.Proofs.Loading
import Provision.Proofs.Lockless
import Provision.Proofs.ExitStatus
import Provision.Proofs.Shell.Arguments
import Provision.Proofs.Unseen
import Provision.Proofs.Reserving
import Provision.Proofs.Pci.Listing
import Provision.Proofs.Mounts.Finding
import Provision.Proofs.Text.Calendar
import Provision.Proofs.Text.Hexadecimal
import Provision.Proofs.Pci.Ids
import Provision.Proofs.Pci.Spellings
import Provision.Proofs.OnRecord
import Provision.Proofs.Unpinned
import Provision.Proofs.Simulation.Comparison
