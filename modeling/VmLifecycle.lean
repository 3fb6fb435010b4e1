import VmLifecycle.Config.Document
import VmLifecycle.Host.Document
import VmLifecycle.Host.FileTree
import VmLifecycle.Main
import VmLifecycle.Proofs.CommandLine.Accepted
import VmLifecycle.Proofs.CommandLine.Verbose
import VmLifecycle.Proofs.Config.Instance
import VmLifecycle.Proofs.Config.Naming
import VmLifecycle.Proofs.Config.Variables
import VmLifecycle.Proofs.Config.Written
import VmLifecycle.Proofs.Control.Recorded
import VmLifecycle.Proofs.Control.Trace
import VmLifecycle.Proofs.Disk.Concatenation
import VmLifecycle.Proofs.Disk.Format
import VmLifecycle.Proofs.Disk.Listing
import VmLifecycle.Proofs.Disk.Outcome
import VmLifecycle.Proofs.Disk.Release
import VmLifecycle.Proofs.Disk.Written
import VmLifecycle.Proofs.Instance
import VmLifecycle.Proofs.Instance.Reason
import VmLifecycle.Proofs.Instance.Shown
import VmLifecycle.Proofs.Json.Grammar
import VmLifecycle.Proofs.Json.Literal
import VmLifecycle.Proofs.Json.Number
import VmLifecycle.Proofs.Json.Printer
import VmLifecycle.Proofs.Json.Record
import VmLifecycle.Proofs.Json.Skip
import VmLifecycle.Proofs.Options
import VmLifecycle.Proofs.Probe.Classification
import VmLifecycle.Proofs.Run.Agreement
import VmLifecycle.Proofs.Run.Contract
import VmLifecycle.Proofs.Run.Hidden
import VmLifecycle.Proofs.Run.Home
import VmLifecycle.Proofs.Run.Result
import VmLifecycle.Proofs.Run.Verbose
import VmLifecycle.Proofs.Script.Conservation
import VmLifecycle.Proofs.Script.Matching
import VmLifecycle.Proofs.Script.Rehearsal
import VmLifecycle.Proofs.Stop.Calls
import VmLifecycle.Proofs.Stop.Licence
import VmLifecycle.Proofs.Stop.Plan
import VmLifecycle.Proofs.Stop.Verdict
import VmLifecycle.Proofs.Text.Quoted
import VmLifecycle.Proofs.Tool.Calls
import VmLifecycle.Proofs.Tool.Streams
import VmLifecycle.Session
