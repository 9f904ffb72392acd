import CableMap.Address.Ipv4
import CableMap.Address.Mac
import CableMap.Binding
import CableMap.Binding.Reader
import CableMap.Calendar
import CableMap.Calendar.Rfc3339
import CableMap.Chassis
import CableMap.Command
import CableMap.Command.Form
import CableMap.Command.Reader
import CableMap.Daemon
import CableMap.Failure
import CableMap.KnownHosts
import CableMap.Log
import CableMap.Log.File
import CableMap.Main
import CableMap.Observation
import CableMap.Observation.Bindings
import CableMap.Oid
import CableMap.Program
import CableMap.Scan
import CableMap.Store
import CableMap.Store.Cells
import CableMap.Store.Forget
import CableMap.Store.Record
import CableMap.Store.Report
import CableMap.Store.Statement
import CableMap.Store.Table
import CableMap.Store.Transaction
import CableMap.Text.Blank
import CableMap.Text.Combining
import CableMap.Text.Decimal
import CableMap.Text.Json
import CableMap.Text.Quoted
import CableMap.Text.Search
import CableMap.Text.Similarity
import CableMap.Text.Unprintable
import CableMap.Text.Utf8
import CableMap.Tools
import CableMap.Topology
import CableMap.Trace
import CableMap.Trap
import CableMap.Trap.Buffer
import CableMap.Walk
import CableMap.Walk.Batch
import CableMap.Walk.Recording
import CableMap.Watcher
import CableMap.Proofs.Address.Ipv4
import CableMap.Proofs.Address.Mac
import CableMap.Proofs.KnownHosts
import CableMap.Proofs.Store.Cable
import CableMap.Proofs.Store.Cabling
import CableMap.Proofs.Store.Devices
import CableMap.Proofs.Store.Discovery
import CableMap.Proofs.Store.Freshness
import CableMap.Proofs.Store.Operation
import CableMap.Proofs.Store.Picture
import CableMap.Proofs.Store.Record
import CableMap.Proofs.Store.Result
import CableMap.Proofs.Store.Rollback
import CableMap.Proofs.Store.Rows
import CableMap.Proofs.Store.Sweep
import CableMap.Proofs.Store.Table
import CableMap.Proofs.Store.Tables
import CableMap.Proofs.Store.Transaction
import CableMap.Proofs.Trace
import CableMap.Proofs.Watcher.Read
import CableMap.Proofs.Watcher.Rollback
import CableMap.Proofs.Watcher.Traps
import CableMap.Proofs.Watcher.Turns
import CableMap.Proofs.Watcher.Run
import CableMap.Proofs.Watcher.Agreement
import CableMap.Proofs.Watcher.System
import CableMap.Proofs.Address.Octet
import CableMap.Proofs.Text.Decimal
import CableMap.Proofs.Text.Words
import CableMap.Proofs.Text.Utf8
import CableMap.Proofs.Trap.Buffer
import CableMap.Proofs.Trap.Notice
import CableMap.Proofs.Trap.Reader
import CableMap.Proofs.Trap.Format
import CableMap.Proofs.Binding.Mention
import CableMap.Proofs.Binding.Line
import CableMap.Proofs.Binding.Batch
import CableMap.Proofs.Observation.Columns
import CableMap.Proofs.Observation.Description
import CableMap.Proofs.Observation.Reading
import CableMap.Proofs.Observation.RoundTrip
import CableMap.Proofs.Observation.Interleaving
import CableMap.Proofs.Watcher.Failing
import CableMap.Proofs.Watcher.Rescan
import CableMap.Proofs.Binding.Grammar
import CableMap.Proofs.Binding.Payload
import CableMap.Proofs.Binding.Printed
import CableMap.Proofs.Store.Backing
import CableMap.Proofs.Store.Reliable
import CableMap.Proofs.Store.Report
import CableMap.Proofs.Store.Identity
import CableMap.Proofs.Store.Removal
import CableMap.Proofs.Store.Cascade
import CableMap.Proofs.Store.Repetition
import CableMap.Proofs.Daemon
import CableMap.Proofs.Address.Spelling
import CableMap.Proofs.Store.Forget
import CableMap.Proofs.Watcher.Batch
import CableMap.Proofs.Observation.Confinement
import CableMap.Proofs.Observation.Warnings
import CableMap.Proofs.Address.Pieces
import CableMap.Proofs.Calendar
import CableMap.Proofs.Calendar.Rfc3339
import CableMap.Proofs.Binding.Enumeration
import CableMap.Proofs.Binding.Hidden
import CableMap.Proofs.Scan.Hosts
import CableMap.Proofs.Address.Key
