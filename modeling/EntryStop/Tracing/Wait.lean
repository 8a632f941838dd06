import EntryStop.Machine.Clock
import EntryStop.Tracing.Status

/-!
# Waiting for a stop

A tracer learns in two ways that its child has stopped: the child's status is
reported, or its instruction pointer can be read, which is possible only while
it is stopped.  The second one catches a status that somebody else in the
process has already taken.  A wait asks both, round after round, until one
answers or the time is over.

A reading of the clock that fails also leaves a record of its own.  It comes from the
clock, is the same in all uses, and is not told of here.
-/

namespace EntryStop

inductive Probe where
  | status
  | pointer
  deriving DecidableEq, Repr

/-- What a child shows its tracer from one moment on: the answer to each status
probe, the answer to each pointer probe, and the readings of the clock.  Where a
list has run out, the probe is silent and the clock cannot be read. -/
structure Outlook where
  statuses : List (Option Status)
  pointers : List (Option Address)
  clock : List Clock.Reading
  deriving DecidableEq, Repr

/-- What a wait found.  The status is missing if the stop was seen by the
instruction pointer alone. -/
structure Sighting where
  stopped : Bool
  status : Option Status
  deriving DecidableEq, Repr

structure Waited where
  sighting : Sighting
  taken : List Probe
  rest : Outlook
  deriving DecidableEq, Repr

namespace Sighting

def exited (s : Sighting) : Bool :=
  match s.status with
  | some status => status.isExit
  | none => false

def nothing : Sighting := ⟨false, none⟩

end Sighting

namespace Outlook

def silent : Outlook := ⟨[], [], []⟩

def probeStatus (o : Outlook) : Option Status × List Probe × Outlook :=
  match o.statuses with
  | [] => (none, [], o)
  | s :: statuses => (s, [.status], { o with statuses })

def probePointer (o : Outlook) : Option Address × List Probe × Outlook :=
  match o.pointers with
  | [] => (none, [], o)
  | p :: pointers => (p, [.pointer], { o with pointers })

/-- One round: a status ends it at once; a readable instruction pointer ends it
with one more status probe, because the stop may have come between the two. -/
def round (o : Outlook) : Option Sighting × List Probe × Outlook :=
  match o.probeStatus with
  | (some s, taken, o) => (some ⟨s.isStop, some s⟩, taken, o)
  | (none, taken, o) =>
      match o.probePointer with
      | (some _, taken', o) =>
          let (s, taken'', o) := o.probeStatus
          (some ⟨true, s⟩, taken ++ taken' ++ taken'', o)
      | (none, taken', o) => (none, taken ++ taken', o)

/-- Rounds until one sees something or until the time since `start` is above
`timeout` at the end of a round.  The clock is read once after each round. -/
def poll (start timeout : Word) : List Clock.Reading -> Outlook -> Waited
  | clock, o =>
      match o.round with
      | (some sighting, taken, o) => ⟨sighting, taken, { o with clock }⟩
      | (none, taken, o) =>
          match clock with
          | [] => ⟨.nothing, taken, { o with clock := [] }⟩
          | now :: clock =>
              if timeout < Clock.elapsed start now then
                ⟨.nothing, taken, { o with clock }⟩
              else
                let later := poll start timeout clock o
                { later with taken := taken ++ later.taken }

def wait (timeout : Word) (o : Outlook) : Waited :=
  match o.clock with
  | [] => poll (Clock.stamp none) timeout [] o
  | now :: clock => poll (Clock.stamp now) timeout clock o

def waitMillis (timeout : Word) (o : Outlook) : Except Fault Waited :=
  (Clock.millis timeout).map o.wait

/-!
## Single rounds
-/

theorem poll_of_round_some {o o' : Outlook} {s : Sighting} {taken : List Probe}
    (h : o.round = (some s, taken, o')) (start timeout : Word)
    (clock : List Clock.Reading) :
    poll start timeout clock o = ⟨s, taken, { o' with clock }⟩ := by
  unfold poll
  rw [h]

theorem poll_nil_of_round_none {o o' : Outlook} {taken : List Probe}
    (h : o.round = (none, taken, o')) (start timeout : Word) :
    poll start timeout [] o = ⟨.nothing, taken, { o' with clock := [] }⟩ := by
  unfold poll
  rw [h]

theorem poll_cons_of_round_none {o o' : Outlook} {taken : List Probe}
    (h : o.round = (none, taken, o')) (start timeout : Word)
    (now : Clock.Reading) (clock : List Clock.Reading) :
    poll start timeout (now :: clock) o =
      if timeout < Clock.elapsed start now then
        ⟨.nothing, taken, { o' with clock }⟩
      else
        let later := poll start timeout clock o'
        { later with taken := taken ++ later.taken } := by
  conv => lhs; unfold poll
  rw [h]

end Outlook
end EntryStop
