import EntryStop.Tracing.Wait

/-!
# The last round of a wait

A wait finds what its last round finds.  A round asks for the child's status first.
What that probe answers is told as it is.  If it is silent and the instruction pointer
can be read, the round finds a stop whatever the second status probe answers.
-/

namespace EntryStop
namespace Outlook

/-!
## What one round finds
-/

theorem round_of_status {o : Outlook} {s : Status} (h : o.probeStatus.1 = some s) :
    o.round.1 = some ⟨s.isStop, some s⟩ := by
  unfold round
  split
  · next answer _ _ hprobe =>
      rw [hprobe] at h
      cases h
      rfl
  · next hprobe =>
      rw [hprobe] at h
      cases h

theorem stopped_of_silent_status {o : Outlook} {s : Sighting}
    (h : o.probeStatus.1 = none) (hround : o.round.1 = some s) : s.stopped = true := by
  unfold round at hround
  split at hround
  · next hprobe =>
      rw [hprobe] at h
      cases h
  · split at hround
    · cases hround
      rfl
    · cases hround

theorem round_stopped_eq_false_iff {o : Outlook} {s : Sighting}
    (hround : o.round.1 = some s) (hexited : s.exited = true) :
    s.stopped = false ↔ o.probeStatus.1 = s.status := by
  cases hprobe : o.probeStatus.1 with
  | none =>
      have hstopped := stopped_of_silent_status hprobe hround
      constructor
      · intro hfalse
        exact nomatch hstopped.symm.trans hfalse
      · intro hstatus
        unfold Sighting.exited at hexited
        rw [← hstatus] at hexited
        cases hexited
  | some status =>
      cases hround.symm.trans (round_of_status hprobe)
      exact ⟨fun _ => rfl, fun _ => Status.isStop_eq_false_of_isExit hexited⟩

/-!
## The last round
-/

def lastRound (start timeout : Word) : List Clock.Reading -> Outlook -> Outlook
  | clock, o =>
      match o.round with
      | (some _, _, _) => o
      | (none, _, later) =>
          match clock with
          | [] => o
          | now :: clock =>
              if timeout < Clock.elapsed start now then o
              else lastRound start timeout clock later

def waitRound (timeout : Word) (o : Outlook) : Outlook :=
  match o.clock with
  | [] => lastRound (Clock.stamp none) timeout [] o
  | now :: clock => lastRound (Clock.stamp now) timeout clock o

theorem lastRound_of_round_some {o o' : Outlook} {s : Sighting} {taken : List Probe}
    (h : o.round = (some s, taken, o')) (start timeout : Word)
    (clock : List Clock.Reading) : lastRound start timeout clock o = o := by
  unfold lastRound
  rw [h]

theorem lastRound_nil_of_round_none {o o' : Outlook} {taken : List Probe}
    (h : o.round = (none, taken, o')) (start timeout : Word) :
    lastRound start timeout [] o = o := by
  unfold lastRound
  rw [h]

theorem lastRound_cons_of_round_none {o o' : Outlook} {taken : List Probe}
    (h : o.round = (none, taken, o')) (start timeout : Word)
    (now : Clock.Reading) (clock : List Clock.Reading) :
    lastRound start timeout (now :: clock) o =
      if timeout < Clock.elapsed start now then o
      else lastRound start timeout clock o' := by
  conv => lhs; unfold lastRound
  rw [h]

theorem poll_sighting (start timeout : Word) (clock : List Clock.Reading) (o : Outlook) :
    (poll start timeout clock o).sighting =
      (lastRound start timeout clock o).round.1.getD .nothing := by
  -- The clock is read once after each silent round, so the readings bound the rounds.
  induction clock generalizing o with
  | nil =>
      rcases hround : o.round with ⟨_ | s, taken, o'⟩
      · rw [poll_nil_of_round_none hround, lastRound_nil_of_round_none hround, hround]
        rfl
      · rw [poll_of_round_some hround, lastRound_of_round_some hround, hround]
        rfl
  | cons now clock ih =>
      rcases hround : o.round with ⟨_ | s, taken, o'⟩
      · rw [poll_cons_of_round_none hround, lastRound_cons_of_round_none hround]
        by_cases hlate : timeout < Clock.elapsed start now
        · rw [if_pos hlate, if_pos hlate, hround]
          rfl
        · rw [if_neg hlate, if_neg hlate]
          exact ih o'
      · rw [poll_of_round_some hround, lastRound_of_round_some hround, hround]
        rfl

theorem wait_sighting (timeout : Word) (o : Outlook) :
    (o.wait timeout).sighting = (o.waitRound timeout).round.1.getD .nothing := by
  unfold wait waitRound
  cases o.clock with
  | nil => exact poll_sighting _ _ _ _
  | cons now clock => exact poll_sighting _ _ _ _

theorem wait_stopped_eq_false_iff {timeout : Word} {o : Outlook}
    (hexited : (o.wait timeout).sighting.exited = true) :
    (o.wait timeout).sighting.stopped = false ↔
      (o.waitRound timeout).probeStatus.1 = (o.wait timeout).sighting.status := by
  have hsighting := wait_sighting timeout o
  cases hround : (o.waitRound timeout).round.1 with
  | none =>
      rw [hround] at hsighting
      rw [hsighting] at hexited
      cases hexited
  | some s =>
      rw [hround] at hsighting
      change _ = s at hsighting
      rw [hsighting] at hexited ⊢
      exact round_stopped_eq_false_iff hround hexited

end Outlook
end EntryStop
