import EntryStop.Log
import EntryStop.Program.MemoryMap
import EntryStop.Tracing.Status

/-!
# Notices about tracing

What is told while a child is traced to its entry.  The wording of each notice is
in one place, so that the rest of the library speaks of what happened.
-/

namespace EntryStop

inductive Stage where
  | waitingInitialStop
  | armedForExecStop
  | waitingExecStop
  | entryResolved
  | breakpointArmed
  | waitingBreakpointHit
  | restored
  deriving DecidableEq, Repr

namespace Stage

def name : Stage -> String
  | waitingInitialStop => "WaitingInitialStop"
  | armedForExecStop => "ArmedForExecStop"
  | waitingExecStop => "WaitingExecStop"
  | entryResolved => "EntryResolved"
  | breakpointArmed => "BreakpointArmed"
  | waitingBreakpointHit => "WaitingBreakpointHit"
  | restored => "Restored"

def all : List Stage :=
  [waitingInitialStop, armedForExecStop, waitingExecStop, entryResolved,
    breakpointArmed, waitingBreakpointHit, restored]

end Stage

inductive Notice where
  | sections (path : String) (count : Nat)
  | mapped (pid : Pid) (mapping : Mapping)
  | resolved (pid : Pid) (mapping : Mapping) (entry fileOffset : Word)
  | wordRead (word : Word) (addr : Address)
  | wordChanged (addr : Address) (word : Word)
  | entered (pid : Pid) (stage : Stage)
  | noExecEvent (pid : Pid) (status : Status)
  | entryHit (pid : Pid)
  | pointerAt (pid : Pid) (pointer entry : Address)
  | stoppedElsewhere (pid : Pid) (pointer entry : Address)
  | pointerAdjusted (pid : Pid)
  | invariantBroken (what : String)
  | trapLeft (pid : Pid) (addr : Address) (reason : String)
  | stoppingAtMain (pid : Pid)
  | failed (stage : Stage) (reason : String)
  | hookEntered
  | hookTraced
  | hookResumed
  | hookFailed (reason : String)
  deriving DecidableEq, Repr

namespace Notice

open Log

def level : Notice -> Level
  | noExecEvent .. | stoppedElsewhere .. => .warn
  | invariantBroken .. | trapLeft .. | failed .. | hookFailed .. => .error
  | _ => .info

def topic : Notice -> Topic
  | sections .. => .image
  | mapped .. | resolved .. => .entry
  | wordRead .. | wordChanged .. => .breakpoint
  | _ => .attach

def text : Notice -> String
  | sections path count =>
      path ++ s!" contains {count} sections, rebasing to correct section"
  | mapped pid m =>
      s!"Child PID {pid.text} has exepath " ++ m.pathname ++
        s!" basePointer {Word.hex m.start} and sectionOffset {Word.hex m.offset}"
  | resolved pid m entry fileOffset =>
      s!"child process {pid.text} executable " ++ m.pathname ++
        s!" has entry {Word.hex entry} at {Word.hex m.start} + ({Word.hex fileOffset} - {Word.hex m.offset})"
  | wordRead word addr => s!"Read word {Word.hex word} from {Word.hex addr}"
  | wordChanged addr word => s!"Changed word at {Word.hex addr} to {Word.hex word}"
  | entered pid stage => s!"Child PID {pid.text}: {stage.name}"
  | noExecEvent pid status =>
      s!"child PID {pid.text} stopped with {status.text} instead of an exec event"
  | entryHit pid => s!"Process {pid.text} hit entry point"
  | pointerAt pid pointer entry =>
      s!"Process {pid.text} instruction pointer is at {Word.hex pointer}, for entry point {Word.hex entry}"
  | stoppedElsewhere pid pointer entry =>
      s!"process {pid.text} stopped at {Word.hex pointer}, expected the breakpoint at {Word.hex entry}"
  | pointerAdjusted pid =>
      s!"Process {pid.text} instruction pointer adjusted and breakpoint removed."
  | invariantBroken what => "ptrace invariant broken: " ++ what
  | trapLeft pid addr reason =>
      s!"child PID {pid.text} is left with a breakpoint at {Word.hex addr}: " ++ reason
  | stoppingAtMain pid => s!"Stopping child PID {pid.text} at main"
  | failed stage reason => stage.name ++ ": " ++ reason
  | hookEntered => "Stopping in main at child for ptracing"
  | hookTraced => "Done PTRACE_TRACEME, raising SIGSTOP"
  | hookResumed => "Resumed after SIGSTOP"
  | hookFailed reason => reason

def record (n : Notice) : Record :=
  ⟨n.level, n.topic, n.text⟩

def isDetail (n : Notice) : Bool :=
  n.level == .info

end Notice

def Notice.essential (notices : List Notice) : List Notice :=
  notices.filter fun n => !n.isDetail

end EntryStop
