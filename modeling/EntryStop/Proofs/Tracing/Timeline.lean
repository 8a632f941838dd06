import EntryStop.Proofs.Machine.Clock
import EntryStop.Tracing.Wait

/-!
# Stops in time and when they are missed

A child stops at some time during a wait, and its status stays pending.  The wait probes
the child, sleeps, and then looks at the clock.  If the time is over by then, it gives up
without another probe, so it misses a stop that has come while it slept.  No other stop
within the time limit is missed.
-/

namespace EntryStop

/-!
## Timelines
-/

/-- When in its round a stop comes: before the status is asked for, between that and the
look at the instruction pointer, or in the sleep after both. -/
inductive Moment where
  | beforeStatus
  | beforePointer
  | asleep
  deriving DecidableEq, Repr

/-- A wait and the stop of its child, in nanoseconds.  The wait starts, looks at the clock
after each of the quiet rounds, and again after the round in which the child stops.  How
long each probe and each sleep takes is left open, but the clock never goes back.  The stop
comes behind the quiet rounds; if there are none, it may come before the start. -/
structure Timeline where
  start : Word
  quiet : List Word
  moment : Moment
  stop : Word
  reading : Word
  status : Status
  pointer : Address
  /-- A start of zero stands for a clock that cannot be read. -/
  started : start ≠ 0
  forward : (start :: (quiet ++ [reading])).Pairwise (· ≤ ·)
  placed : (quiet ++ [stop, reading]).Pairwise (· ≤ ·)
  isStop : status.isStop = true

namespace Timeline

def statusesAtStop (tl : Timeline) : List (Option Status) :=
  match tl.moment with
  | .beforeStatus => [some tl.status]
  | .beforePointer | .asleep => [none, some tl.status]

def pointersAtStop (tl : Timeline) : List (Option Address) :=
  match tl.moment with
  | .beforeStatus => []
  | .beforePointer => [some tl.pointer]
  | .asleep => [none]

def outlook (tl : Timeline) : Outlook where
  statuses := tl.quiet.map (fun _ => none) ++ tl.statusesAtStop
  pointers := tl.quiet.map (fun _ => none) ++ tl.pointersAtStop
  clock := some tl.start :: (tl.quiet.map some ++ [some tl.reading])

def StopsWithin (tl : Timeline) (ns : Nat) : Prop :=
  tl.stop.toNat ≤ tl.start.toNat + ns

/-- The stop comes while the wait sleeps, and the wait looks at the clock when more than
`ns` nanoseconds are over. -/
def Overslept (tl : Timeline) (ns : Nat) : Prop :=
  tl.moment = .asleep ∧ tl.start.toNat + ns < tl.reading.toNat

instance (tl : Timeline) (ns : Nat) : Decidable (tl.StopsWithin ns) :=
  inferInstanceAs (Decidable (_ ≤ _))

instance (tl : Timeline) (ns : Nat) : Decidable (tl.Overslept ns) :=
  inferInstanceAs (Decidable (_ ∧ _))

theorem quiet_le_stop (tl : Timeline) {now : Word} (h : now ∈ tl.quiet) :
    now.toNat ≤ tl.stop.toNat := by
  have hquiet := (List.pairwise_append.mp tl.placed).2.2
  exact UInt64.le_iff_toNat_le.mp (hquiet now h tl.stop List.mem_cons_self)

end Timeline

/-!
## The wait
-/

namespace Outlook

theorem poll_quiet {start timeout : Word} {quiet : List Word}
    (h : forall now, now ∈ quiet -> ¬ timeout < Clock.elapsed start (some now))
    (clock later : List Clock.Reading) (statuses : List (Option Status))
    (pointers : List (Option Address)) :
    (poll start timeout (quiet.map some ++ clock)
      ⟨quiet.map (fun _ => none) ++ statuses, quiet.map (fun _ => none) ++ pointers,
        later⟩).sighting =
      (poll start timeout clock ⟨statuses, pointers, later⟩).sighting := by
  induction quiet with
  | nil => rfl
  | cons now quiet ih =>
      have hround : (Outlook.mk ((now :: quiet).map (fun _ => none) ++ statuses)
          ((now :: quiet).map (fun _ => none) ++ pointers) later).round =
          (none, [.status, .pointer],
            ⟨quiet.map (fun _ => none) ++ statuses, quiet.map (fun _ => none) ++ pointers,
              later⟩) := rfl
      show (poll start timeout (some now :: (quiet.map some ++ clock)) _).sighting = _
      rw [poll_cons_of_round_none hround, if_neg (h now List.mem_cons_self)]
      exact ih fun now' hmem => h now' (List.mem_cons_of_mem _ hmem)

end Outlook

namespace Timeline

/-- From the round of the stop on, the stop is missed exactly if the sleep of that round
ends too late. -/
theorem poll_atStop (tl : Timeline) (timeout : Word) (later : List Clock.Reading) :
    (Outlook.poll tl.start timeout [some tl.reading]
      ⟨tl.statusesAtStop, tl.pointersAtStop, later⟩).sighting =
      if tl.Overslept timeout.toNat then .nothing else ⟨true, some tl.status⟩ := by
  have hlate := Clock.lt_elapsed_iff tl.started timeout tl.reading
  cases hmoment : tl.moment with
  | beforeStatus =>
      have hawake : ¬ tl.Overslept timeout.toNat := fun h => nomatch hmoment.symm.trans h.1
      simp only [statusesAtStop, pointersAtStop, hmoment]
      rw [Outlook.poll_of_round_some rfl, if_neg hawake, tl.isStop]
  | beforePointer =>
      have hawake : ¬ tl.Overslept timeout.toNat := fun h => nomatch hmoment.symm.trans h.1
      simp only [statusesAtStop, pointersAtStop, hmoment]
      rw [Outlook.poll_of_round_some rfl, if_neg hawake]
  | asleep =>
      simp only [statusesAtStop, pointersAtStop, hmoment]
      rw [Outlook.poll_cons_of_round_none rfl]
      by_cases hover : tl.Overslept timeout.toNat
      · rw [if_pos (hlate.mpr hover.2), if_pos hover]
      · rw [if_neg fun h => hover ⟨hmoment, hlate.mp h⟩, if_neg hover]
        dsimp only
        rw [Outlook.poll_of_round_some rfl, tl.isStop]

theorem sighting_wait (tl : Timeline) {timeout : Word}
    (hstop : tl.StopsWithin timeout.toNat) :
    (tl.outlook.wait timeout).sighting =
      if tl.Overslept timeout.toNat then .nothing else ⟨true, some tl.status⟩ := by
  have hquiet : forall now, now ∈ tl.quiet ->
      ¬ timeout < Clock.elapsed tl.start (some now) := by
    intro now hmem hlate
    have hlt := (Clock.lt_elapsed_iff tl.started _ _).mp hlate
    have hle := tl.quiet_le_stop hmem
    unfold StopsWithin at hstop
    omega
  rw [← tl.poll_atStop timeout tl.outlook.clock]
  exact Outlook.poll_quiet hquiet [some tl.reading] _ _ _

/-- A stop within the time limit is seen, unless the wait sleeps over the limit when the
stop comes.  A limit that is no word of nanoseconds is a fault. -/
theorem stopped_iff_not_overslept (tl : Timeline) (ms : Word)
    (hstop : tl.StopsWithin (ms.toNat * 1000000)) :
    (exists w, tl.outlook.waitMillis ms = .ok w ∧ w.sighting.stopped = true) ↔
      ms.toNat * 1000000 < UInt64.size ∧ ¬ tl.Overslept (ms.toNat * 1000000) := by
  cases hmillis : Clock.millis ms with
  | error fault =>
      have hwait : tl.outlook.waitMillis ms = .error fault := by
        rw [Outlook.waitMillis, hmillis]
        rfl
      rw [hwait]
      constructor
      · rintro ⟨w, herror, _⟩
        cases herror
      · rintro ⟨hfits, _⟩
        rcases Clock.exists_millis hfits with ⟨timeout, hok⟩
        rw [hok] at hmillis
        cases hmillis
  | ok timeout =>
      have hwait : tl.outlook.waitMillis ms = .ok (tl.outlook.wait timeout) := by
        rw [Outlook.waitMillis, hmillis]
        rfl
      have hfits := timeout.toNat_lt
      rw [← Clock.millis_eq_ok_iff.mp hmillis] at hstop ⊢
      rw [hwait]
      have hsighting := tl.sighting_wait hstop
      constructor
      · rintro ⟨w, hok, hstopped⟩
        cases hok
        refine ⟨hfits, fun hover => ?_⟩
        rw [hsighting, if_pos hover] at hstopped
        cases hstopped
      · rintro ⟨_, hawake⟩
        refine ⟨_, rfl, ?_⟩
        rw [hsighting, if_neg hawake]

/-!
## Two timelines
-/

/-- A stop after half of a millisecond.  The wait sleeps from before it until two
milliseconds are over. -/
def longSleep : Timeline where
  start := 1000
  quiet := [61000, 121000]
  moment := .asleep
  stop := 501000
  reading := 2001000
  status := .stopped 1234 .stop
  pointer := 0x401000
  started := by decide
  forward := by decide
  placed := by decide
  isStop := rfl

theorem stopped_iff_not_overslept_longSleep :
    longSleep.StopsWithin ((1 : Word).toNat * 1000000) ∧
      ((exists w, longSleep.outlook.waitMillis 1 = .ok w ∧ w.sighting.stopped = true) ↔
        (1 : Word).toNat * 1000000 < UInt64.size ∧
          ¬ longSleep.Overslept ((1 : Word).toNat * 1000000)) :=
  ⟨by decide, longSleep.stopped_iff_not_overslept 1 (by decide)⟩

/-- A stop at the very time of the start, but behind both probes. -/
def atOnce : Timeline where
  start := 1
  quiet := []
  moment := .asleep
  stop := 1
  reading := 10001
  status := .stopped 1234 .stop
  pointer := 0x401000
  started := by decide
  forward := by decide
  placed := by decide
  isStop := rfl

theorem stops_missed_in_time :
    (longSleep.StopsWithin ((1 : Word).toNat * 1000000) ∧
      exists w, longSleep.outlook.waitMillis 1 = .ok w ∧ w.sighting.stopped = false) ∧
    (atOnce.StopsWithin ((0 : Word).toNat * 1000000) ∧
      exists w, atOnce.outlook.waitMillis 0 = .ok w ∧ w.sighting.stopped = false) :=
  ⟨⟨by decide, _, rfl, rfl⟩, ⟨by decide, _, rfl, rfl⟩⟩

end Timeline
end EntryStop
