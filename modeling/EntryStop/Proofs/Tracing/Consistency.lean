import EntryStop.Proofs.Tracing.Answers

/-!
# Sightings that contradict themselves

A sighting says whether the child is stopped, and mostly with which status.  The two agree
where the status has come first.  Where the instruction pointer could be read, the child
counts as stopped, and the status that is asked for after that may say something else.
-/

namespace EntryStop
namespace Sighting

/-- The status, if there is one, says of a stop what the sighting says. -/
def Consistent (s : Sighting) : Prop :=
  forall status, s.status = some status -> s.stopped = status.isStop

theorem consistent_of_status_none {s : Sighting} (h : s.status = none) : s.Consistent := by
  intro status hstatus
  cases h.symm.trans hstatus

theorem consistent_mk_some_iff {stopped : Bool} {status : Status} :
    (Sighting.mk stopped (some status)).Consistent ↔ stopped = status.isStop := by
  constructor
  · intro h
    exact h status rfl
  · rintro h _ ⟨⟩
    exact h

theorem Consistent.not_exited_of_stopped {s : Sighting} (h : s.Consistent)
    (hstopped : s.stopped = true) : ¬ s.exited = true := by
  intro hexited
  unfold exited at hexited
  cases hstatus : s.status with
  | none =>
      rw [hstatus] at hexited
      cases hexited
  | some status =>
      rw [hstatus] at hexited
      have hnot := Status.isStop_eq_false_of_isExit hexited
      rw [← h status hstatus, hstopped] at hnot
      cases hnot

end Sighting

namespace Outlook

/-- The wait ends in the round `k` by a readable instruction pointer, and the status probe
after that answers `s`. -/
structure Reconciled (o : Outlook) (timeout : Word) (k : Nat) (s : Status) : Prop where
  last : o.LastRound timeout k
  silent : o.statusAt k = none
  readable : exists p, o.pointerAt k = some p
  answer : o.statusAt (k + 1) = some s

section

variable {o : Outlook} {timeout : Word} (htimeout : timeout < Word.greatest)

include htimeout

theorem Reconciled.sighting {k : Nat} {s : Status} (h : o.Reconciled timeout k s) :
    (o.wait timeout).sighting = ⟨true, some s⟩ := by
  rcases h.readable with ⟨p, hpointer⟩
  rw [(ended_wait htimeout h.last).pointer p h.silent hpointer, h.answer]

theorem consistent_or_reconciled :
    (o.wait timeout).sighting.Consistent ∨ exists k s, o.Reconciled timeout k s := by
  rcases exists_lastRound (o := o) htimeout with ⟨k, hlast⟩
  rcases (ended_wait htimeout hlast).cases with
    ⟨s, _, hsighting⟩ | ⟨hsilent, hreadable, hsighting⟩ | ⟨_, _, hsighting⟩
  · rw [hsighting]
    exact Or.inl (Sighting.consistent_mk_some_iff.mpr rfl)
  · cases hanswer : o.statusAt (k + 1) with
    | none =>
        rw [hsighting]
        exact Or.inl (Sighting.consistent_of_status_none hanswer)
    | some s => exact Or.inr ⟨k, s, hlast, hsilent, hreadable, hanswer⟩
  · rw [hsighting]
    exact Or.inl (Sighting.consistent_of_status_none rfl)

theorem wait_consistent_iff :
    (o.wait timeout).sighting.Consistent ↔
      forall k s, o.Reconciled timeout k s -> s.isStop = true := by
  constructor
  · intro h k s hreconciled
    rw [hreconciled.sighting htimeout, Sighting.consistent_mk_some_iff] at h
    exact h.symm
  · intro h
    rcases consistent_or_reconciled (o := o) htimeout with hconsistent | ⟨k, s, hreconciled⟩
    · exact hconsistent
    · rw [hreconciled.sighting htimeout, Sighting.consistent_mk_some_iff]
      exact (h k s hreconciled).symm

theorem wait_stopped_and_exited_iff :
    (o.wait timeout).sighting.stopped = true ∧ (o.wait timeout).sighting.exited = true ↔
      exists k s, o.Reconciled timeout k s ∧ s.isExit = true := by
  constructor
  · rintro ⟨hstopped, hexited⟩
    rcases consistent_or_reconciled (o := o) htimeout with hconsistent | ⟨k, s, hreconciled⟩
    · exact absurd hexited (hconsistent.not_exited_of_stopped hstopped)
    · rw [hreconciled.sighting htimeout] at hexited
      exact ⟨k, s, hreconciled, hexited⟩
  · rintro ⟨k, s, hreconciled, hexit⟩
    rw [hreconciled.sighting htimeout]
    exact ⟨rfl, hexit⟩

end

/-- What a wait finds contradicts itself exactly if its last round is ended by a readable
instruction pointer and the status probe after that answers with no stop.  It takes a dead
child for stopped exactly if that probe answers with an exit. -/
theorem waitMillis_consistent_iff {o : Outlook} {ms : Word} {w : Waited}
    (hw : o.waitMillis ms = .ok w) :
    exists timeout, timeout.toNat = ms.toNat * 1000000 ∧
      (w.sighting.Consistent ↔
        forall k s, o.Reconciled timeout k s -> s.isStop = true) ∧
      (w.sighting.stopped = true ∧ w.sighting.exited = true ↔
        exists k s, o.Reconciled timeout k s ∧ s.isExit = true) := by
  rcases waitMillis_eq_ok_iff.mp hw with ⟨timeout, hvalue, rfl⟩
  have htimeout := Clock.lt_greatest_of_millis hvalue
  exact ⟨timeout, hvalue, wait_consistent_iff htimeout, wait_stopped_and_exited_iff htimeout⟩

def dyingInRound : Outlook where
  statuses := [none, some (.exited 1234 1)]
  pointers := [some 0x7f0000000010]
  clock := [some 1000]

def dyingWait : Waited where
  sighting := ⟨true, some (.exited 1234 1)⟩
  taken := [.status, .pointer, .status]
  rest := .silent

theorem waitMillis_consistent_iff_dying :
    dyingInRound.waitMillis 1 = .ok dyingWait ∧
      exists timeout, timeout.toNat = (1 : Word).toNat * 1000000 ∧
        (dyingWait.sighting.Consistent ↔
          forall k s, dyingInRound.Reconciled timeout k s -> s.isStop = true) ∧
        (dyingWait.sighting.stopped = true ∧ dyingWait.sighting.exited = true ↔
          exists k s, dyingInRound.Reconciled timeout k s ∧ s.isExit = true) :=
  ⟨rfl, waitMillis_consistent_iff rfl⟩

theorem inconsistent_of_dying :
    exists w, dyingInRound.waitMillis 1 = .ok w ∧ ¬ w.sighting.Consistent ∧
      w.sighting.stopped = true ∧ w.sighting.exited = true := by
  refine ⟨dyingWait, rfl, ?_, rfl, rfl⟩
  intro h
  cases h (.exited 1234 1) rfl

end Outlook
end EntryStop
