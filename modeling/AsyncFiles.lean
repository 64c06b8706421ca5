import AsyncFiles.Access.Attrs
import AsyncFiles.Access.Bits
import AsyncFiles.Access.OpenArgs
import AsyncFiles.Access.OpenFlags
import AsyncFiles.Access.Perms
import AsyncFiles.Cancellation
import AsyncFiles.Context
import AsyncFiles.Error.Errno
import AsyncFiles.Error.Fault
import AsyncFiles.Error.FileError
import AsyncFiles.Error.PoolError
import AsyncFiles.Error.StartError
import AsyncFiles.File
import AsyncFiles.Handle.Basic
import AsyncFiles.Handle.Metadata
import AsyncFiles.Handle.Owner
import AsyncFiles.Handle.Transfer
import AsyncFiles.Handle.WholeFile
import AsyncFiles.Host.Basic
import AsyncFiles.Host.Content
import AsyncFiles.Host.Lookup
import AsyncFiles.Host.Metadata
import AsyncFiles.Host.Opening
import AsyncFiles.Host.Pipe
import AsyncFiles.Host.Stalled
import AsyncFiles.Host.Transfer
import AsyncFiles.Numbering
import AsyncFiles.Path
import AsyncFiles.Pool.Basic
import AsyncFiles.Pool.Config
import AsyncFiles.Proofs.Cancellation.Generations
import AsyncFiles.Proofs.Completion.Accounts
import AsyncFiles.Proofs.Completion.Answers
import AsyncFiles.Proofs.Completion.OnceOnly
import AsyncFiles.Proofs.Completion.Places
import AsyncFiles.Proofs.Completion.Quiet
import AsyncFiles.Proofs.Completion.Steps
import AsyncFiles.Proofs.Descriptors.Adoption
import AsyncFiles.Proofs.Descriptors.Books
import AsyncFiles.Proofs.Descriptors.Conserved
import AsyncFiles.Proofs.Descriptors.Held
import AsyncFiles.Proofs.Descriptors.Holdings
import AsyncFiles.Proofs.Descriptors.Owners
import AsyncFiles.Proofs.Descriptors.Table
import AsyncFiles.Proofs.Descriptors.Unwinding
import AsyncFiles.Proofs.Descriptors.Upkeep
import AsyncFiles.Proofs.Endings
import AsyncFiles.Proofs.Outcome.Bearers
import AsyncFiles.Proofs.Outcome.Changes
import AsyncFiles.Proofs.Outcome.Starts
import AsyncFiles.Proofs.Overlap.Steps
import AsyncFiles.Proofs.Overlap.TakenOut
import AsyncFiles.Proofs.Program
import AsyncFiles.Proofs.Registry
import AsyncFiles.Proofs.Transfers
import AsyncFiles.Registry
import AsyncFiles.Reporting
import AsyncFiles.Script.Command
import AsyncFiles.Script.Exchange
import AsyncFiles.Script.Machine
import AsyncFiles.Script.Names
import AsyncFiles.Script.Reply
import AsyncFiles.Script.Session
import AsyncFiles.Script.Tasks
import AsyncFiles.Script.Tokens
import AsyncFiles.Service.Basic
import AsyncFiles.Service.Lifetime
import AsyncFiles.Service.Opening
import AsyncFiles.Service.Report
import AsyncFiles.Service.Submission
import AsyncFiles.Text.CodeRanges
import AsyncFiles.Text.Extending
import AsyncFiles.Text.Invisible
import AsyncFiles.Text.Quoted
import AsyncFiles.Text.Unassigned
import AsyncFiles.Text.Utf8
import AsyncFiles.Time.DateTime
import AsyncFiles.Time.FileTime
import AsyncFiles.Time.FileTimes
import AsyncFiles.Time.Stamp
import AsyncFiles.Time.SystemTime
import AsyncFiles.Proofs.Registrations
import AsyncFiles.Proofs.Steady
import AsyncFiles.Proofs.InOrder.Alike
import AsyncFiles.Proofs.InOrder.Direct
import AsyncFiles.Proofs.InOrder.Synchronous
import AsyncFiles.Proofs.Pool.Conservation
import AsyncFiles.Proofs.Pool.Conserved
import AsyncFiles.Proofs.Work.Accounting
import AsyncFiles.Proofs.Work.Outstanding
import AsyncFiles.Proofs.Bystanders.Entries
import AsyncFiles.Proofs.Bystanders.Spared
import AsyncFiles.Proofs.Moving.Steps
import AsyncFiles.Proofs.Moving.Order
import AsyncFiles.Proofs.Moving.Missed
import AsyncFiles.Proofs.Completion.Waiting
import AsyncFiles.Proofs.Shutdown.Standing
import AsyncFiles.Proofs.Shutdown.Staffed
import AsyncFiles.Proofs.Shutdown.Carried
import AsyncFiles.Proofs.Shutdown.Leftover
import AsyncFiles.Proofs.Shutdown.Closings
import AsyncFiles.Proofs.Shutdown.Restaffed
import AsyncFiles.Proofs.Shutdown.Afterwards
import AsyncFiles.Proofs.Cancellation.Histories
import AsyncFiles.Proofs.Threads.QueueLaw
import AsyncFiles.Proofs.Threads.PanicSafety
import AsyncFiles.Proofs.Transparent.Moves
import AsyncFiles.Proofs.Waking.NoneLost
import AsyncFiles.Proofs.Overlap.Alive
import AsyncFiles.Proofs.Descriptors.Opening
import AsyncFiles.Proofs.Regular.Exact
import AsyncFiles.Proofs.Time.Conversions
import AsyncFiles.Proofs.Time.Setting
import AsyncFiles.Proofs.Passing.Exact
import AsyncFiles.Proofs.WholeFiles.RoundTrip
import AsyncFiles.Proofs.Unopened
import AsyncFiles.Proofs.Passing.Positional
import AsyncFiles.Proofs.Dispositions
import AsyncFiles.Proofs.Forests.BreadthFirst
import AsyncFiles.Proofs.Forests.Growth
