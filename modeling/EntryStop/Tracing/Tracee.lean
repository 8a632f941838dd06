import EntryStop.Machine.Memory
import EntryStop.Program.Entry
import EntryStop.Tracing.Notice
import EntryStop.Tracing.Wait

/-!
# The traced child

A child is what its tracer may meet: what it shows from one continue to the next,
what its memory and its instruction pointer hold, where its entry is learned from,
and which calls on it are refused.  A tracee is a child together with everything
that has been done to it, seen of it and told about it.
-/

namespace EntryStop

/-!
## Calls and their refusal
-/

/-- A call on the child.  The two probes count only where they took an answer. -/
inductive Call where
  | probe (probe : Probe)
  | traceExec
  | cont
  | resolveEntry
  | readWord (addr : Address)
  | writeWord (addr : Address) (word : Word)
  | getRegisters
  | setRegisters (pointer : Address)
  deriving DecidableEq, Repr

namespace Call

def text : Call -> String
  | probe .status => "try_wait"
  | probe .pointer => "ip"
  | traceExec => "trace_exec"
  | cont => "cont"
  | resolveEntry => "resolve_entry"
  | readWord addr => "read_word " ++ Word.hex addr
  | writeWord addr word => "write_word " ++ Word.hex addr ++ " " ++ Word.hex word
  | getRegisters => "getregs"
  | setRegisters pointer => "setregs " ++ Word.hex pointer

def isProbe : Call -> Bool
  | probe _ => true
  | _ => false

end Call

/-- The reasons with which the calls of one kind are refused, in their order; `none`
grants a call.  After the listed ones, all calls are answered alike. -/
structure Schedule where
  listed : List (Option String)
  otherwise : Option String
  deriving DecidableEq, Repr

namespace Schedule

def granted : Schedule := ⟨[], none⟩

def refused (reason : String) : Schedule := ⟨[], some reason⟩

def head (s : Schedule) : Option String :=
  s.listed.headD s.otherwise

def tail (s : Schedule) : Schedule :=
  { s with listed := s.listed.tail }

end Schedule

structure Refusals where
  traceExec : Option String
  cont : Schedule
  readWord : Option String
  writeWord : Schedule
  getRegisters : Option String
  setRegisters : Option String
  deriving DecidableEq, Repr

def Refusals.none : Refusals :=
  ⟨.none, .granted, .none, .granted, .none, .none⟩

/-!
## Children
-/

inductive EntrySource where
  | answer (entry : Except String Address)
  | files (source : Entry.Source)

/-- A child.  It shows one outlook after the other, and nothing after the last. -/
structure Child where
  pid : Pid
  outlooks : List Outlook
  memory : Memory
  pointer : Address
  source : EntrySource
  refusals : Refusals

def Child.ofMemory (memory : Memory) (writeWord : Schedule) : Child where
  pid := 0
  outlooks := []
  memory
  pointer := 0
  source := .answer (.error "")
  refusals := { Refusals.none with writeWord }

/-- A child under its tracer: the stages entered, what each wait has seen, the calls
made and the notices told so far, the latest last. -/
structure Tracee extends Child where
  logging : Bool
  stages : List Stage
  sightings : List Sighting
  calls : List Call
  notices : List Notice

abbrev Tracing (ε α : Type) := EStateM ε Tracee α

namespace Tracee

def meet (logging : Bool) (child : Child) : Tracee :=
  { child with logging, stages := [], sightings := [], calls := [], notices := [] }

def stage (t : Tracee) : Stage :=
  t.stages.getLast?.getD .waitingInitialStop

def actions (t : Tracee) : List Call :=
  t.calls.filter fun c => !c.isProbe

def called (t : Tracee) (call : Call) : Tracee :=
  { t with calls := t.calls ++ [call] }

def told (t : Tracee) (notice : Notice) : Tracee :=
  { t with notices := t.notices ++ [notice] }

def detailed (t : Tracee) (notice : Notice) : Tracee :=
  if t.logging then t.told notice else t

def entered (t : Tracee) (stage : Stage) : Tracee :=
  { t with stages := t.stages ++ [stage] }.detailed (.entered t.pid stage)

def waited (t : Tracee) (w : Waited) : Tracee :=
  { t with
    outlooks := w.rest :: t.outlooks.tail
    sightings := t.sightings ++ [w.sighting]
    calls := t.calls ++ w.taken.map .probe }

end Tracee

/-!
## The calls
-/

namespace Tracing

def tell {ε : Type} (notice : Notice) : Tracing ε Unit :=
  fun t => .ok () (t.told notice)

def detail {ε : Type} (notice : Notice) : Tracing ε Unit :=
  fun t => .ok () (t.detailed notice)

def enter {ε : Type} (stage : Stage) : Tracing ε Unit :=
  fun t => .ok () (t.entered stage)

def wait {ε : Type} (timeout : Word) : Tracing ε Sighting := fun t =>
  let w := (t.outlooks.headD .silent).wait timeout
  .ok w.sighting (t.waited w)

def traceExec : Tracing String Unit := fun t =>
  let t := t.called .traceExec
  match t.refusals.traceExec with
  | some reason => .error reason t
  | none => .ok () t

def cont : Tracing String Unit := fun t =>
  let answer := t.refusals.cont.head
  let t := { t.called .cont with
    refusals := { t.refusals with cont := t.refusals.cont.tail } }
  match answer with
  | some reason => .error reason t
  | none => .ok () { t with outlooks := t.outlooks.tail }

def readWord (addr : Address) : Tracing String Word := fun t =>
  let t := t.called (.readWord addr)
  match t.refusals.readWord, t.memory.get? addr with
  | some reason, _ => .error reason t
  | none, some word => .ok word t
  | none, none => .error ("unmapped " ++ Word.hex addr) t

def writeWord (addr : Address) (word : Word) : Tracing String Unit := fun t =>
  let answer := t.refusals.writeWord.head
  let t := { t.called (.writeWord addr word) with
    refusals := { t.refusals with writeWord := t.refusals.writeWord.tail } }
  match answer with
  | some reason => .error reason t
  | none => .ok () { t with memory := t.memory.set addr word }

def getRegisters : Tracing String Address := fun t =>
  let t := t.called .getRegisters
  match t.refusals.getRegisters with
  | some reason => .error reason t
  | none => .ok t.pointer t

def setRegisters (pointer : Address) : Tracing String Unit := fun t =>
  let t := t.called (.setRegisters pointer)
  match t.refusals.setRegisters with
  | some reason => .error reason t
  | none => .ok () { t with pointer }

def resolveEntry : Tracing (Failure Entry.Error) Address := fun t =>
  let t := t.called .resolveEntry
  match t.source with
  | .answer (.ok entry) => .ok entry t
  | .answer (.error reason) => .error (.reported (.unknown reason)) t
  | .files source =>
      let (told, entry) := Entry.resolve t.logging t.pid source
      let t := { t with notices := t.notices ++ told }
      match entry with
      | .ok entry => .ok entry t
      | .error failure => .error failure t

end Tracing
end EntryStop
