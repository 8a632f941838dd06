import EntryStop.Debugger.Await
import EntryStop.Log
import EntryStop.Machine.Fault

/-!
# Letting a process go

A process that is traced and stopped is detached.  With a delay it is detached
but stays suspended, so that a debugger can attach; if none does in time, it is
told to continue.
-/

namespace EntryStop
namespace Release

inductive Action where
  | readPointer
  | detach
  | detachStopped
  | sendContinue
  deriving DecidableEq, Repr

structure Target where
  pid : Pid
  pointer : Option Address
  detach : Option String
  detachStopped : Option String
  sendContinue : Option String
  statuses : List (Option (List Char))
  clock : List Clock.Reading

inductive Notice where
  | awaited (notice : Debugger.AwaitNotice)
  | noDelay
  | stoppingDetachRefused (reason : String)
  | detachRefused (reason : String)
  | continueRefused (pid : Pid) (reason : String)
  deriving DecidableEq, Repr

namespace Notice

def level : Notice -> Log.Level
  | awaited _ => .info
  | noDelay | stoppingDetachRefused _ | continueRefused .. => .error
  | detachRefused _ => .debug

def text (inSeconds : Word -> String) : Notice -> String
  | awaited notice => notice.text inSeconds
  | noDelay =>
      "Can't delay for debugger without ptrace, check ptrace_scope value"
  | stoppingDetachRefused reason => reason
  | detachRefused reason => reason
  | continueRefused pid reason => s!"cannot send SIGCONT to {pid.text}: " ++ reason

def record (inSeconds : Word -> String) (n : Notice) : Log.Record :=
  ⟨n.level, .resume, n.text inSeconds⟩

end Notice

structure Report where
  actions : List Action
  notices : List Notice
  deriving DecidableEq, Repr

def told {α : Type} (reason : Option α) (notice : α -> Notice) : List Notice :=
  (reason.map notice).toList

def letRun (t : Target) : Report :=
  ⟨[.detach], told t.detach .detachRefused⟩

def suspend (t : Target) (timeout : Word) : Report :=
  let polls := t.statuses.map fun status => status.bind Debugger.tracerPid
  let awaited := Debugger.await timeout t.clock polls
  ⟨.detachStopped :: List.replicate awaited.resumes .sendContinue,
    told t.detachStopped .stoppingDetachRefused ++ awaited.notices.map .awaited ++
      (List.replicate awaited.resumes (told t.sendContinue (.continueRefused t.pid))).flatten⟩

def run (t : Target) (delay : UInt32) : Except Fault Report :=
  if t.pid = 0 then .ok ⟨[], []⟩
  else if delay = 0 then .ok (letRun t)
  else if t.pointer.isSome then do
    let timeout ← Clock.seconds delay.toUInt64
    let report := suspend t timeout
    return { report with actions := .readPointer :: report.actions }
  else
    let report := letRun t
    .ok ⟨.readPointer :: report.actions, .noDelay :: report.notices⟩

end Release
end EntryStop
