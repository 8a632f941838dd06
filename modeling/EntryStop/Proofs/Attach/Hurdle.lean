import EntryStop.Proofs.Tracing.Ends

/-!
# The hurdles on the way to the entry

A run meets the same hurdles in the same order whatever the child does.  It ends with
success behind the last one, and with an error at the first one that is not clear.
The error tells which one that was.
-/

namespace EntryStop

/-!
## What a child shows and holds

The first wait of a run sees the stop that the child makes itself, the second one comes
after one continue, and the third one after two.
-/

namespace Child

open Attach

def initialStop (c : Child) : Sighting :=
  ((c.outlooks.headD .silent).wait initialStopTimeout).sighting

def execStop (c : Child) : Sighting :=
  ((c.outlooks.tail.headD .silent).wait execStopTimeout).sighting

def trapStop (c : Child) : Sighting :=
  ((c.outlooks.tail.tail.headD .silent).wait breakpointTimeout).sighting

def sightings (c : Child) : List Sighting :=
  [c.initialStop, c.execStop, c.trapStop]

/-- The address of the entry, zero if it cannot be learned. -/
def entryAddress (c : Child) : Address :=
  match c.entry with
  | .ok entry => entry
  | .error _ => 0

def entryWord (c : Child) : Word :=
  (c.memory.get? c.entryAddress).getD 0

end Child

namespace Attach

def trapOf (arch : Arch) (c : Child) : Breakpoint :=
  ⟨c.entryAddress, c.entryWord, arch.patch c.entryWord⟩

/-- The calls of a run that goes all the way, for an entry, the word there, and the
instruction pointer at the third stop. -/
def protocol (arch : Arch) (entry : Address) (word : Word) (pointer : Address) :
    List Call :=
  [.traceExec, .cont, .resolveEntry, .readWord entry,
    .writeWord entry (arch.patch word), .cont, .getRegisters,
    .setRegisters (arch.beforeTrap pointer), .writeWord entry word]

def protocolOf (arch : Arch) (c : Child) : List Call :=
  protocol arch c.entryAddress c.entryWord c.pointer

/-!
## Hurdles
-/

inductive Hurdle where
  | initialStop
  | tracing
  | firstContinue
  | execStop
  | entry
  | word
  | trap
  | secondContinue
  | trapStop
  | registersRead
  | registersWritten
  | removal
  deriving DecidableEq, Repr

namespace Hurdle

def index : Hurdle -> Nat
  | initialStop => 0
  | tracing => 1
  | firstContinue => 2
  | execStop => 3
  | entry => 4
  | word => 5
  | trap => 6
  | secondContinue => 7
  | trapStop => 8
  | registersRead => 9
  | registersWritten => 10
  | removal => 11

def Clear (c : Child) : Hurdle -> Prop
  | initialStop =>
      c.initialStop.stopped = true ∧
        forall s, c.initialStop.status = some s -> exists pid, s = .stopped pid .stop
  | tracing => c.refusals.traceExec = none
  | firstContinue => c.refusals.cont.head = none
  | execStop => c.execStop.stopped = true
  | entry => c.entry = .ok c.entryAddress
  | word =>
      c.refusals.readWord = none ∧ c.memory.get? c.entryAddress = some c.entryWord
  | trap => c.refusals.writeWord.head = none
  | secondContinue => c.refusals.cont.tail.head = none
  | trapStop => c.trapStop.stopped = true
  | registersRead => c.refusals.getRegisters = none
  | registersWritten => c.refusals.setRegisters = none
  | removal => c.refusals.writeWord.tail.head = none

def Passed (c : Child) (h : Hurdle) : Prop :=
  forall g : Hurdle, g.index < h.index -> g.Clear c

theorem index_inj {g h : Hurdle} (heq : g.index = h.index) : g = h := by
  revert heq
  cases g <;> cases h <;> decide

theorem passed_initialStop (c : Child) : Passed c initialStop := by
  intro g hg
  cases hg

theorem Passed.next {c : Child} {g h : Hurdle} (hpassed : Passed c g)
    (hclear : g.Clear c) (hindex : h.index = g.index + 1) : Passed c h := by
  intro k hk
  rcases Nat.lt_or_ge k.index g.index with hlt | hge
  · exact hpassed k hlt
  · have hkg : k = g := index_inj (by omega)
    rw [hkg]
    exact hclear

theorem Passed.all {c : Child} (hpassed : Passed c removal)
    (hclear : removal.Clear c) (h : Hurdle) : h.Clear c := by
  rcases Nat.lt_or_ge h.index removal.index with hlt | hge
  · exact hpassed h hlt
  · have hlast : h = removal := by
      revert hge
      cases h <;> decide
    rw [hlast]
    exact hclear

/-!
How far a run has come when a hurdle stops it: the numbers of stages entered, of
waits, and of calls of the protocol.
-/

def stages : Hurdle -> Nat
  | initialStop => 1
  | tracing | firstContinue => 2
  | execStop | entry => 3
  | word | trap => 4
  | secondContinue => 5
  | trapStop | registersRead | registersWritten | removal => 6

def waits : Hurdle -> Nat
  | initialStop | tracing | firstContinue => 1
  | execStop | entry | word | trap | secondContinue => 2
  | trapStop | registersRead | registersWritten | removal => 3

def calls : Hurdle -> Nat
  | initialStop => 0
  | tracing => 1
  | firstContinue | execStop => 2
  | entry => 3
  | word => 4
  | trap => 5
  | secondContinue | trapStop => 6
  | registersRead => 7
  | registersWritten | removal => 8

def trapIn : Hurdle -> Bool
  | secondContinue | trapStop | registersRead | registersWritten | removal => true
  | _ => false

/-!
What the numbers tell about the hurdles that lie behind.
-/

theorem entry_before_of_calls {h : Hurdle} (hcalls : 3 < h.calls) :
    entry.index < h.index := by
  revert hcalls
  cases h <;> decide

theorem word_before_of_calls {h : Hurdle} (hcalls : 4 < h.calls) :
    word.index < h.index := by
  revert hcalls
  cases h <;> decide

theorem execStop_le_of_waits {h : Hurdle} (hwaits : 2 ≤ h.waits) :
    execStop.index ≤ h.index := by
  revert hwaits
  cases h <;> decide

theorem trap_before_of_trapIn {h : Hurdle} (htrap : h.trapIn = true) :
    trap.index < h.index := by
  revert htrap
  cases h <;> decide

theorem calls_of_trapIn {h : Hurdle} (htrap : h.trapIn = true) :
    5 ≤ h.calls ∧ h.calls ≤ 8 := by
  revert htrap
  cases h <;> decide

theorem calls_of_no_trap {h : Hurdle} (htrap : h.trapIn = false) :
    h.calls ≤ 5 ∧ (h.calls = 5 -> h = trap) := by
  revert htrap
  cases h <;> decide

end Hurdle

/-!
## Errors and hurdles
-/

def Error.hurdle : Error -> Hurdle
  | noInitialStop .. | otherInitialStop .. => .initialStop
  | notTraced .. => .tracing
  | notContinuedToExec .. => .firstContinue
  | exitedBeforeExec .. | noExec .. => .execStop
  | noEntry .. => .entry
  | notArmed _ (.unreadable ..) => .word
  | notArmed .. => .trap
  | notContinuedToEntry .. => .secondContinue
  | entryNotHit .. => .trapStop
  | registersUnreadable .. => .registersRead
  | registersUnwritable .. => .registersWritten
  | notDisarmed .. => .removal

/-- A fault can only come from the image that the entry is looked up in. -/
def hurdleOf : Failure Error -> Hurdle
  | .reported e => e.hurdle
  | .fault _ => .entry

structure Halted (arch : Arch) (c : Child) (h : Hurdle) (v : View) : Prop where
  passed : h.Passed c
  notClear : ¬ h.Clear c
  stages : v.stages = Stage.all.take h.stages
  sightings : v.sightings = c.sightings.take h.waits
  actions : v.actions = (protocolOf arch c).take h.calls ++
    if h.trapIn then [.writeWord c.entryAddress c.entryWord] else []
  memory_of_no_trap : h.trapIn = false -> v.memory = c.memory
  memory_of_trap : h.trapIn = true ->
    v.memory = (c.memory.set c.entryAddress (arch.patch c.entryWord)).set
        c.entryAddress c.entryWord ∨
      v.memory = c.memory.set c.entryAddress (arch.patch c.entryWord) ∧
        exists n, n ∈ v.notices ∧ n.level = .error

theorem Halted.hurdle_eq {arch : Arch} {c : Child} {g h : Hurdle} {v : View}
    (hv : Halted arch c h v) (hg : ¬ g.Clear c) (hle : g.index ≤ h.index) : h = g := by
  apply Hurdle.index_inj
  rcases Nat.lt_or_ge g.index h.index with hlt | hge
  · exact absurd (hv.passed g hlt) hg
  · exact Nat.le_antisymm hge hle

theorem Halted.lt_waits {arch : Arch} {c : Child} {h : Hurdle} {v : View} {n : Nat}
    (hv : Halted arch c h v) (hn : n < v.sightings.length) : n < h.waits := by
  rw [hv.sightings, List.length_take] at hn
  exact (Nat.lt_min.mp hn).left

end Attach
end EntryStop
