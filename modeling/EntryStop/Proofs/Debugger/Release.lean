import EntryStop.Debugger.Release
import EntryStop.Proofs.Debugger.Await
import EntryStop.Proofs.Machine.Clock

/-!
# What a release with a delay does

A process that is to be released with a delay is detached so that it stays suspended, and it
is told to continue exactly if no debugger has come.  That holds as long as its instruction
pointer can be read.  If it cannot, the process is let run at once, after an error was told.
-/

namespace EntryStop
namespace Release

def awaited (t : Target) (timeout : Word) : Debugger.Awaited :=
  Debugger.await timeout t.clock
    (t.statuses.map fun status => status.bind Debugger.tracerPid)

def wakeUp (t : Target) (timeout : Word) : List Action :=
  if (awaited t timeout).tracer = none then [.sendContinue] else []

theorem actions_suspend (t : Target) (timeout : Word) :
    (suspend t timeout).actions = .detachStopped :: wakeUp t timeout := by
  have hresumes : (awaited t timeout).resumes =
      if (awaited t timeout).tracer = none then 1 else 0 :=
    Debugger.await_resumes _ _ _
  show .detachStopped :: List.replicate (awaited t timeout).resumes Action.sendContinue = _
  rw [hresumes, wakeUp]
  by_cases htracer : (awaited t timeout).tracer = none
  · rw [if_pos htracer, if_pos htracer]
    rfl
  · rw [if_neg htracer, if_neg htracer]
    rfl

section

variable {t : Target} {delay : UInt32} (hpid : t.pid ≠ 0) (hdelay : 0 < delay)

include hpid hdelay

theorem run_of_pointer (hpointer : t.pointer ≠ none) :
    exists report timeout, run t delay = .ok report ∧
      timeout.toNat = delay.toNat * 1000000000 ∧
      report.actions = .readPointer :: .detachStopped :: wakeUp t timeout := by
  rcases Clock.exists_seconds delay with ⟨timeout, hseconds, hvalue⟩
  have hsome : t.pointer.isSome = true := Option.isSome_iff_ne_none.mpr hpointer
  have hpositive : delay ≠ 0 := Ne.symm (UInt32.ne_of_lt hdelay)
  refine ⟨{ suspend t timeout with
    actions := .readPointer :: (suspend t timeout).actions }, timeout, ?_, hvalue, ?_⟩
  · rw [run, if_neg hpid, if_neg hpositive, if_pos hsome, hseconds]
    rfl
  · rw [actions_suspend]

theorem run_of_no_pointer (hpointer : t.pointer = none) :
    run t delay =
      .ok ⟨[.readPointer, .detach], .noDelay :: told t.detach .detachRefused⟩ := by
  have hnone : ¬ t.pointer.isSome = true := by
    rw [hpointer]
    decide
  have hpositive : delay ≠ 0 := Ne.symm (UInt32.ne_of_lt hdelay)
  rw [run, if_neg hpid, if_neg hpositive, if_neg hnone]
  rfl

/-- A release with a delay never fails.  It lets the process run at once exactly if the
instruction pointer cannot be read, and tells an error then.  Otherwise it detaches the
process in a stop and tells it to continue exactly if no debugger has come. -/
theorem detach_iff_of_delay :
    exists report timeout, run t delay = .ok report ∧
      timeout.toNat = delay.toNat * 1000000000 ∧
      (.detach ∈ report.actions ↔ t.pointer = none) ∧
      (t.pointer = none ->
        report.actions = [.readPointer, .detach] ∧
          exists n, n ∈ report.notices ∧ n.level = .error) ∧
      (t.pointer ≠ none ->
        report.actions = [.readPointer, .detachStopped] ++
          if (awaited t timeout).tracer = none then [.sendContinue] else []) := by
  by_cases hpointer : t.pointer = none
  · rcases Clock.exists_seconds delay with ⟨timeout, _, hvalue⟩
    refine ⟨_, timeout, run_of_no_pointer hpid hdelay hpointer, hvalue, ?_, ?_, ?_⟩
    · exact ⟨fun _ => hpointer, fun _ => List.mem_cons_of_mem _ List.mem_cons_self⟩
    · intro _
      exact ⟨rfl, .noDelay, List.mem_cons_self, rfl⟩
    · intro hne
      exact absurd hpointer hne
  · rcases run_of_pointer hpid hdelay hpointer with ⟨report, timeout, hrun, hvalue, hactions⟩
    refine ⟨report, timeout, hrun, hvalue, ?_, ?_, fun _ => hactions⟩
    · constructor
      · intro hmem
        rw [hactions, wakeUp] at hmem
        split at hmem
        · exact absurd hmem (by decide)
        · exact absurd hmem (by decide)
      · intro hnone
        exact absurd hnone hpointer
    · intro hnone
      exact absurd hnone hpointer

end

/-!
## Two processes
-/

def unattended : Target where
  pid := 1234
  pointer := some 0x401000
  detach := none
  detachStopped := some "cannot detach from tracee, ESRCH: No such process"
  sendContinue := none
  statuses := [some "TracerPid:\t0\n".toList]
  clock := [some 1, some 1000000001]

theorem detach_iff_of_delay_unattended :
    unattended.pid ≠ 0 ∧ 0 < (1 : UInt32) ∧
      exists report timeout, run unattended 1 = .ok report ∧
        timeout.toNat = (1 : UInt32).toNat * 1000000000 ∧
        (.detach ∈ report.actions ↔ unattended.pointer = none) ∧
        (unattended.pointer = none ->
          report.actions = [.readPointer, .detach] ∧
            exists n, n ∈ report.notices ∧ n.level = .error) ∧
        (unattended.pointer ≠ none ->
          report.actions = [.readPointer, .detachStopped] ++
            if (awaited unattended timeout).tracer = none then [.sendContinue] else []) :=
  ⟨by decide, by decide, detach_iff_of_delay (by decide) (by decide)⟩

def stranger : Target where
  pid := 2147483647
  pointer := none
  detach := some "cannot detach from tracee, ESRCH: No such process"
  detachStopped := some "cannot detach from tracee, ESRCH: No such process"
  sendContinue := some "ESRCH: No such process"
  statuses := []
  clock := []

/-- It is to stay suspended for a second, and the call that lets it run is made. -/
theorem stranger_let_run_despite_delay :
    exists report, run stranger 1 = .ok report ∧ Action.detach ∈ report.actions :=
  ⟨⟨[.readPointer, .detach],
      [.noDelay, .detachRefused "cannot detach from tracee, ESRCH: No such process"]⟩,
    rfl, by decide⟩

end Release
end EntryStop
