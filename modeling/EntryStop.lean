import EntryStop.CommandLine.Arguments
import EntryStop.CommandLine.Filter
import EntryStop.CommandLine.Invocation
import EntryStop.CommandLine.Run
import EntryStop.Debugger.Await
import EntryStop.Debugger.Presence
import EntryStop.Debugger.Release
import EntryStop.Debugger.Tracer
import EntryStop.Host.Environment
import EntryStop.Host.Files
import EntryStop.Host.Pid
import EntryStop.Host.ProcessFiles
import EntryStop.Host.Scope
import EntryStop.Host.Settings
import EntryStop.Host.Usage
import EntryStop.IdentPort.Backoff
import EntryStop.IdentPort.Find
import EntryStop.IdentPort.Listing
import EntryStop.IdentPort.Range
import EntryStop.IdentPort.SocketTable
import EntryStop.Launch.Child
import EntryStop.Launch.Program
import EntryStop.Launch.Session
import EntryStop.Log
import EntryStop.Machine.Arch
import EntryStop.Machine.Clock
import EntryStop.Machine.Fault
import EntryStop.Machine.Memory
import EntryStop.Machine.Word
import EntryStop.Main
import EntryStop.Program.Encode
import EntryStop.Program.Entry
import EntryStop.Program.Image
import EntryStop.Program.Layout
import EntryStop.Program.MemoryMap
import EntryStop.Program.Parser
import EntryStop.Text.Blank
import EntryStop.Text.Lines
import EntryStop.Text.Numeral
import EntryStop.Text.Split
import EntryStop.Text.Utf8
import EntryStop.Tracing.Attach
import EntryStop.Tracing.Breakpoint
import EntryStop.Tracing.Ending
import EntryStop.Tracing.Notice
import EntryStop.Tracing.Refusal
import EntryStop.Tracing.Signal
import EntryStop.Tracing.Status
import EntryStop.Tracing.Tracee
import EntryStop.Tracing.Wait
import EntryStop.Proofs.Machine.Clock
import EntryStop.Proofs.Machine.Results
import EntryStop.Proofs.Machine.Patch
import EntryStop.Proofs.Text.Numeral
import EntryStop.Proofs.Text.Leading
import EntryStop.Proofs.Text.Fields
import EntryStop.Proofs.Text.Runs
import EntryStop.Proofs.Text.Lines
import EntryStop.Proofs.Text.LineStarts
import EntryStop.Proofs.Text.Signed
import EntryStop.Proofs.Program.MapLines
import EntryStop.Proofs.Program.MapParts
import EntryStop.Proofs.Program.MapPaths
import EntryStop.Proofs.Tracing.Ends
import EntryStop.Proofs.Breakpoint.Steps
import EntryStop.Proofs.Breakpoint.Nesting
import EntryStop.Proofs.Program.Resolve
import EntryStop.Proofs.Program.Parser
import EntryStop.Proofs.Program.Reading
import EntryStop.Proofs.Program.RoundTrip
import EntryStop.Proofs.Program.Sections
import EntryStop.Proofs.Program.Selection
import EntryStop.Proofs.Program.Truncation
import EntryStop.Proofs.Program.Rebasing
import EntryStop.Proofs.Program.Faults
import EntryStop.Proofs.Attach.Hurdle
import EntryStop.Proofs.Attach.Course
import EntryStop.Proofs.Attach.Memory
import EntryStop.Proofs.Attach.Order
import EntryStop.Proofs.Attach.Pointer
import EntryStop.Proofs.Attach.Warning
import EntryStop.Proofs.Attach.Death
import EntryStop.Proofs.Debugger.Await
import EntryStop.Proofs.Debugger.TracerLine
import EntryStop.Proofs.Debugger.Presence
import EntryStop.Proofs.Debugger.StatusText
import EntryStop.Proofs.Debugger.Release
import EntryStop.Proofs.Tracing.Hushed
import EntryStop.Proofs.Attach.Verbosity
import EntryStop.Proofs.Tracing.Timeline
import EntryStop.Proofs.Tracing.Answers
import EntryStop.Proofs.Tracing.Consistency
import EntryStop.Proofs.IdentPort.Leftmost
import EntryStop.Proofs.IdentPort.NameFields
import EntryStop.Proofs.IdentPort.Retries
import EntryStop.Proofs.IdentPort.UnwaitedDelay
import EntryStop.Proofs.IdentPort.Outputs
import EntryStop.Proofs.IdentPort.SocketRows
import EntryStop.Proofs.Host.Scope
import EntryStop.Proofs.IdentPort.HeldSockets
import EntryStop.Proofs.Attach.Answer
import EntryStop.Proofs.Launch.Courses
import EntryStop.Proofs.Launch.Stop
import EntryStop.Proofs.Launch.Held
import EntryStop.Proofs.CommandLine.Filter
import EntryStop.Proofs.CommandLine.Invocation
