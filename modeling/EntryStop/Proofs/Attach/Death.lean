import EntryStop.Proofs.Attach.Order
import EntryStop.Proofs.Tracing.Rounds

/-!
# Children that die on the way

A wait may see that the child is dead.  If the probe that opens a round sees it, the wait
reports no stop, and the run ends with an error.  If only the second status probe sees
it, after the instruction pointer could be read, the wait reports a stop all the same.
-/

namespace EntryStop

open Attach in
def Child.execOpening (c : Child) : Option Status :=
  ((c.outlooks.tail.headD .silent).waitRound execStopTimeout).probeStatus.1

open Attach in
def Child.trapOpening (c : Child) : Option Status :=
  ((c.outlooks.tail.tail.headD .silent).waitRound breakpointTimeout).probeStatus.1

namespace Attach

theorem execStop_stopped_eq_false_iff {c : Child} (hexited : c.execStop.exited = true) :
    c.execStop.stopped = false ↔ c.execOpening = c.execStop.status :=
  Outlook.wait_stopped_eq_false_iff hexited

theorem trapStop_stopped_eq_false_iff {c : Child} (hexited : c.trapStop.exited = true) :
    c.trapStop.stopped = false ↔ c.trapOpening = c.trapStop.status :=
  Outlook.wait_stopped_eq_false_iff hexited

theorem Halted.resolveEntry_mem {arch : Arch} {c : Child} {h : Hurdle} {v : View}
    (hv : Halted arch c h v) (hwaits : 1 < h.waits)
    (hstopped : c.execStop.stopped = true) : Call.resolveEntry ∈ v.actions := by
  rw [hv.actions]
  apply List.mem_append_left
  have hnotClear := hv.notClear
  cases h with
  | initialStop | tracing | firstContinue => exact absurd hwaits (by decide)
  | execStop => exact absurd hstopped hnotClear
  | _ => exact List.mem_cons_of_mem _ (List.mem_cons_of_mem _ List.mem_cons_self)

section

variable (arch : Arch) (logging : Bool) (c : Child)

theorem attach_error_iff :
    (exists f t, attach arch logging c = .error f t) ↔
      exists h : Hurdle, ¬ h.Clear c := by
  rcases attach_cases arch logging c with ⟨hattach, _, hclear⟩ | ⟨f, hattach, hhalted⟩
  · constructor
    · rintro ⟨f, t, herror⟩
      cases hattach.symm.trans herror
    · rintro ⟨h, hnotClear⟩
      exact absurd (hclear h) hnotClear
  · exact ⟨fun _ => ⟨_, hhalted.notClear⟩, fun _ => ⟨f, _, hattach⟩⟩

theorem not_clear_of_initial_exit (hexited : c.initialStop.exited = true) :
    ¬ Hurdle.initialStop.Clear c := by
  intro hclear
  unfold Sighting.exited at hexited
  cases hstatus : c.initialStop.status with
  | none =>
      rw [hstatus] at hexited
      cases hexited
  | some status =>
      rcases hclear.right status hstatus with ⟨pid, hstop⟩
      rw [hstatus, hstop] at hexited
      cases hexited

theorem untouched_iff_of_second_wait
    (hwaits : 1 < (left (attach arch logging c)).sightings.length) :
    ((exists f t, attach arch logging c = .error f t) ∧
      Call.resolveEntry ∉ (left (attach arch logging c)).actions ∧
      (forall a w, Call.writeWord a w ∉ (left (attach arch logging c)).actions)) ↔
      c.execStop.stopped = false := by
  rcases attach_cases arch logging c with ⟨hattach, _, hclear⟩ | ⟨f, hattach, hhalted⟩
  · constructor
    · rintro ⟨⟨f, t, herror⟩, _⟩
      cases hattach.symm.trans herror
    · intro hstopped
      exact nomatch (hclear .execStop).symm.trans hstopped
  · have hone := hhalted.lt_waits hwaits
    constructor
    · rintro ⟨_, hunresolved, _⟩
      apply Bool.eq_false_iff.mpr
      intro hstopped
      exact hunresolved (hhalted.resolveEntry_mem hone hstopped)
    · intro hstopped
      have hactions :
          (left (attach arch logging c)).actions = [.traceExec, .cont] :=
        hhalted.actions_of_no_execStop hone hstopped
      rw [hactions]
      refine ⟨⟨f, _, hattach⟩, by decide, fun a w => ?_⟩
      simp

theorem error_iff_of_third_wait
    (hwaits : 2 < (left (attach arch logging c)).sightings.length) :
    (exists f t, attach arch logging c = .error f t) ↔
      c.trapStop.stopped = false ∨ c.refusals.getRegisters ≠ none ∨
        c.refusals.setRegisters ≠ none ∨ c.refusals.writeWord.tail.head ≠ none := by
  rcases attach_cases arch logging c with ⟨hattach, _, hclear⟩ | ⟨f, hattach, hhalted⟩
  · constructor
    · rintro ⟨f, t, herror⟩
      cases hattach.symm.trans herror
    · rintro (hstopped | hread | hwritten | hremoval)
      · exact nomatch (hclear .trapStop).symm.trans hstopped
      · exact absurd (hclear .registersRead) hread
      · exact absurd (hclear .registersWritten) hwritten
      · exact absurd (hclear .removal) hremoval
  · refine ⟨fun _ => ?_, fun _ => ⟨f, _, hattach⟩⟩
    have hthree := hhalted.lt_waits hwaits
    have hnotClear := hhalted.notClear
    generalize hurdleOf f = h at hthree hnotClear
    cases h with
    | trapStop => exact Or.inl (Bool.eq_false_iff.mpr hnotClear)
    | registersRead => exact Or.inr (Or.inl hnotClear)
    | registersWritten => exact Or.inr (Or.inr (Or.inl hnotClear))
    | removal => exact Or.inr (Or.inr (Or.inr hnotClear))
    | _ => exact absurd hthree (by decide)

end

/-- What becomes of a run that sees the child dead.  In the first wait it always fails.
In the second one it fails and leaves the child untouched exactly if the probe that
opens the last round has seen the death.  In the third one it fails exactly if that
probe has, or if a later call is refused. -/
theorem dead_child (arch : Arch) (logging : Bool) (c : Child) :
    (forall s, (left (attach arch logging c)).sightings[0]? = some s ->
      s.exited = true -> exists f t, attach arch logging c = .error f t) ∧
    (forall s, (left (attach arch logging c)).sightings[1]? = some s ->
      s.exited = true ->
      (((exists f t, attach arch logging c = .error f t) ∧
        Call.resolveEntry ∉ (left (attach arch logging c)).actions ∧
        (forall a w, Call.writeWord a w ∉ (left (attach arch logging c)).actions)) ↔
        c.execOpening = s.status)) ∧
    (forall s, (left (attach arch logging c)).sightings[2]? = some s ->
      s.exited = true ->
      ((exists f t, attach arch logging c = .error f t) ↔
        c.trapOpening = s.status ∨ c.refusals.getRegisters ≠ none ∨
          c.refusals.setRegisters ≠ none ∨
          c.refusals.writeWord.tail.head ≠ none)) := by
  refine ⟨?_, ?_, ?_⟩
  · intro s hs hexited
    have hseen : c.sightings[0]? = some s := sighting_left arch logging c hs
    cases hseen
    exact (attach_error_iff arch logging c).mpr ⟨_, not_clear_of_initial_exit c hexited⟩
  · intro s hs hexited
    have hseen : c.sightings[1]? = some s := sighting_left arch logging c hs
    cases hseen
    have hwaits := (List.getElem?_eq_some_iff.mp hs).choose
    rw [untouched_iff_of_second_wait arch logging c hwaits]
    exact execStop_stopped_eq_false_iff hexited
  · intro s hs hexited
    have hseen : c.sightings[2]? = some s := sighting_left arch logging c hs
    cases hseen
    have hwaits := (List.getElem?_eq_some_iff.mp hs).choose
    rw [error_iff_of_third_wait arch logging c hwaits]
    exact or_congr (trapStop_stopped_eq_false_iff hexited) Iff.rfl

/-- A child that can still be looked at when its second wait begins, and is dead when its
status is asked for once more. -/
def dying : Child :=
  willing (showing (.stopped 1234 .stop))
    ⟨[none, some (.exited 1234 1)], [some 0x7f0000000010], []⟩
    (showing (.stopped 1234 .trap)) 0x401001

theorem dying_taken_for_stopped :
    exists s t, attach .x86_64 false dying = .ok 0x401000 t ∧
      t.sightings[1]? = some s ∧ s.exited = true ∧ Call.resolveEntry ∈ t.actions :=
  ⟨⟨true, some (.exited 1234 1)⟩, left (attach .x86_64 false dying),
    rfl, rfl, rfl, by decide⟩

end Attach
end EntryStop
