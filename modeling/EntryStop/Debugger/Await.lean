import EntryStop.Debugger.Tracer
import EntryStop.Log
import EntryStop.Machine.Clock

/-!
# Waiting for a debugger

A suspended process waits until a debugger has attached to it.  If none comes in
time, or the process is gone, it is resumed.

The record that every failed reading of the clock leaves is not among the notices
here: it comes from the clock itself and says nothing about the wait.
-/

namespace EntryStop
namespace Debugger

inductive AwaitNotice where
  | attached (tracer : Pid) (after : Word)
  | timedOut
  deriving DecidableEq, Repr

namespace AwaitNotice

/-- The text of a notice.  Nanoseconds become seconds in floating-point arithmetic, so how
they are then written comes from outside. -/
def text (inSeconds : Word -> String) : AwaitNotice -> String
  | attached tracer after =>
      s!"Debugger PID {tracer.text} attached after {inSeconds after} seconds"
  | timedOut => "Timed out waiting for debugger, resuming"

def record (inSeconds : Word -> String) (n : AwaitNotice) : Log.Record :=
  ⟨.info, .resume, n.text inSeconds⟩

end AwaitNotice

structure Awaited where
  tracer : Option Pid
  polls : Nat
  resumes : Nat
  notices : List AwaitNotice
  deriving DecidableEq, Repr

namespace Awaited

def attached (tracer : Pid) (after : Word) : Awaited :=
  ⟨some tracer, 1, 0, [.attached tracer after]⟩

def timedOut (polls : Nat) : Awaited :=
  ⟨none, polls, 1, [.timedOut]⟩

end Awaited

/-- Polls the tracer until it is known, the process has none to tell, or the time
since `start` has reached `timeout` after a poll.  The n-th poll has the n-th
answer; past the last one the process is gone. -/
def awaitFrom (start timeout : Word) :
    List Clock.Reading -> List (Option Pid) -> Awaited
  | _, [] => .timedOut 1
  | _, none :: _ => .timedOut 1
  | clock, some tracer :: polls =>
      let elapsed := Clock.elapsed start (clock.headD none)
      if tracer ≠ 0 then .attached tracer elapsed
      else if timeout ≤ elapsed then .timedOut 1
      else
        let later := awaitFrom start timeout clock.tail polls
        { later with polls := later.polls + 1 }

def await (timeout : Word) (clock : List Clock.Reading) (polls : List (Option Pid)) :
    Awaited :=
  awaitFrom (Clock.stamp (clock.headD none)) timeout clock.tail polls

end Debugger
end EntryStop
