import EntryStop.Tracing.Breakpoint

/-!
# Stopping a child at its entry

A child that has just been forked stops itself and then starts its program.  The
tracer meets it at the first stop, lets it go on to the start of the program,
puts a breakpoint on the entry, lets it run into the breakpoint, moves it back
over the trap and takes the trap out.  The child is then stopped on its first
instruction with its code unchanged.
-/

namespace EntryStop
namespace Attach

inductive Error where
  | noInitialStop (pid : Pid)
  | otherInitialStop (pid : Pid) (status : Status)
  | notTraced (pid : Pid) (reason : String)
  | notContinuedToExec (pid : Pid) (reason : String)
  | exitedBeforeExec (pid : Pid) (status : Option Status)
  | noExec (pid : Pid)
  | noEntry (cause : Entry.Error)
  | notArmed (pid : Pid) (cause : Breakpoint.Error)
  | notContinuedToEntry (pid : Pid) (reason : String)
  | entryNotHit (pid : Pid) (status : Option Status)
  | registersUnreadable (pid : Pid) (reason : String)
  | registersUnwritable (pid : Pid) (reason : String)
  | notDisarmed (pid : Pid) (cause : Breakpoint.Error)
  deriving DecidableEq, Repr

def Error.message : Error -> String
  | noInitialStop pid => s!"didn't get initial stop from child PID {pid.text}"
  | otherInitialStop pid status =>
      s!"initial stop of child PID {pid.text} was {status.text}, expected {Signal.stop.name}"
  | notTraced pid reason => s!"cannot trace exec of {pid.text}: " ++ reason
  | notContinuedToExec pid reason => s!"cannot continue {pid.text} to exec: " ++ reason
  | exitedBeforeExec pid status =>
      s!"child PID {pid.text} exited after continue, status " ++ Status.optionText status
  | noExec pid => s!"didn't get to execve in child PID {pid.text}"
  | noEntry cause => cause.message
  | notArmed pid cause => s!"cannot set breakpoint in {pid.text}: " ++ cause.message
  | notContinuedToEntry pid reason =>
      s!"cannot continue {pid.text} to entry: " ++ reason
  | entryNotHit pid status =>
      s!"didn't hit breakpoint in PID {pid.text} (" ++ Status.optionText status ++ ")"
  | registersUnreadable pid reason =>
      s!"cannot get registers of {pid.text}: " ++ reason
  | registersUnwritable pid reason =>
      s!"cannot set registers of {pid.text}: " ++ reason
  | notDisarmed pid cause =>
      s!"cannot remove breakpoint from {pid.text}: " ++ cause.message

/-!
## Time limits
-/

/-- The child stops itself right after the fork: 100 ms. -/
def initialStopTimeout : Word := 100000000

/-- When the child starts its program is not in our hands: 250 ms. -/
def execStopTimeout : Word := 250000000

/-- The loader and the program decide how long the way to the entry is: 2 s. -/
def breakpointTimeout : Word := 2000000000

/-!
## Failing
-/

def fail {α : Type} (error : Error) : Tracing (Failure Error) α :=
  throw (.reported error)

def onRefusal {ε δ α : Type} (call : Tracing ε α) (handler : ε -> Tracing δ α) :
    Tracing δ α := fun t =>
  match call t with
  | .ok a t => .ok a t
  | .error e t => handler e t

/-- A call that a stopped child grants.  If it is refused all the same, this is
told at once. -/
def insist {ε α : Type} (error : ε -> Error) (call : Tracing ε α) :
    Tracing (Failure Error) α :=
  onRefusal call fun e => do
    Tracing.tell (.invariantBroken (error e).message)
    fail (error e)

def abandon {ε : Type} (pid : Pid) (bp : Breakpoint) : Tracing ε Unit :=
  onRefusal bp.restore fun e => Tracing.tell (.trapLeft pid bp.addr e.message)

/-!
## The way to the entry
-/

def awaitInitialStop (pid : Pid) : Tracing (Failure Error) Unit := do
  Tracing.enter .waitingInitialStop
  let seen ← Tracing.wait initialStopTimeout
  if !seen.stopped then fail (.noInitialStop pid)
  match seen.status with
  | none | some (.stopped _ .stop) => pure ()
  | some status => fail (.otherInitialStop pid status)

def awaitExec (pid : Pid) : Tracing (Failure Error) Unit := do
  Tracing.enter .armedForExecStop
  insist (.notTraced pid) Tracing.traceExec
  insist (.notContinuedToExec pid) Tracing.cont
  Tracing.enter .waitingExecStop
  let seen ← Tracing.wait execStopTimeout
  if !seen.stopped then
    fail (if seen.exited then .exitedBeforeExec pid seen.status else .noExec pid)
  match seen.status with
  | some status => if !status.isExec then Tracing.tell (.noExecEvent pid status)
  | none => pure ()

def arm (arch : Arch) (pid : Pid) : Tracing (Failure Error) Breakpoint := do
  let entry ← Tracing.resolveEntry.adaptExcept (Failure.map .noEntry)
  Tracing.enter .entryResolved
  let bp ← insist (.notArmed pid) (Breakpoint.inject arch entry)
  Tracing.enter .breakpointArmed
  return bp

def awaitEntry (pid : Pid) (bp : Breakpoint) : Tracing (Failure Error) Unit := do
  onRefusal Tracing.cont fun reason => do
    abandon pid bp
    fail (.notContinuedToEntry pid reason)
  Tracing.enter .waitingBreakpointHit
  let seen ← Tracing.wait breakpointTimeout
  if !seen.stopped then
    abandon pid bp
    fail (.entryNotHit pid seen.status)
  Tracing.detail (.entryHit pid)

def stepBack (arch : Arch) (pid : Pid) (bp : Breakpoint) :
    Tracing (Failure Error) Unit := do
  let pointer ← onRefusal Tracing.getRegisters fun reason => do
    abandon pid bp
    Tracing.tell (.invariantBroken s!"cannot get registers of {pid.text}")
    fail (.registersUnreadable pid reason)
  Tracing.detail (.pointerAt pid pointer bp.addr)
  if pointer ≠ arch.afterTrap bp.addr then
    Tracing.tell (.stoppedElsewhere pid pointer bp.addr)
  onRefusal (Tracing.setRegisters (arch.beforeTrap pointer)) fun reason => do
    abandon pid bp
    Tracing.tell (.invariantBroken s!"cannot set registers of {pid.text}")
    fail (.registersUnwritable pid reason)
  insist (.notDisarmed pid) bp.restore
  Tracing.enter .restored
  Tracing.detail (.pointerAdjusted pid)

def run (arch : Arch) : Tracing (Failure Error) Address := do
  let pid := (← get).pid
  awaitInitialStop pid
  awaitExec pid
  let bp ← arm arch pid
  awaitEntry pid bp
  stepBack arch pid bp
  return bp.addr

def attach (arch : Arch) (logging : Bool) (child : Child) :
    EStateM.Result (Failure Error) Tracee Address :=
  run arch (.meet logging child)

/-- Brings a child to its entry if tracing is allowed, and tells the failure
otherwise.  The child is then left as it is. -/
def stopAtMain (arch : Arch) (allowed logging : Bool) (child : Child) :
    Except Fault Bool × Tracee :=
  let t := Tracee.meet logging child
  if allowed then
    match run arch (t.detailed (.stoppingAtMain t.pid)) with
    | .ok _ t => (.ok true, t)
    | .error (.reported e) t => (.ok false, t.told (.failed t.stage e.message))
    | .error (.fault f) t => (.error f, t)
  else (.ok false, t)

end Attach
end EntryStop
