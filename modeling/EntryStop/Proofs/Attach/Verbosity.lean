import EntryStop.Proofs.Tracing.Hushed

/-!
# Details do not change what is done

Each part of a run is indifferent to details, and so is each step with breakpoints.  A run
with details therefore differs from one without them only in the details that it tells.
-/

namespace EntryStop

open Tracing

/-!
## Breakpoints
-/

namespace Breakpoint

theorem indifferent_inject (arch : Arch) (addr : Address) :
    Indifferent (inject arch addr) := by
  unfold inject
  apply ((Indifferent.readWord addr).adaptExcept _).bind
  intro saved
  apply (Indifferent.detail rfl).bind
  intro _
  apply ((Indifferent.writeWord _ _).adaptExcept _).bind
  intro _
  apply (Indifferent.detail rfl).bind
  intro _
  exact Indifferent.pure _

theorem indifferent_restore (bp : Breakpoint) : Indifferent bp.restore :=
  (Indifferent.writeWord _ _).adaptExcept _

theorem run_hushed (arch : Arch) (slots : Slots) (t : Tracee) (step : Step) :
    step.run arch slots t.hushed =
      ((step.run arch slots t).1, (step.run arch slots t).2.1,
        (step.run arch slots t).2.2.hushed) := by
  cases step with
  | inject addr =>
      have hinject := indifferent_inject arch addr t
      cases hrun : Breakpoint.inject arch addr t with
      | ok bp t' =>
          rw [hrun] at hinject
          simp only [Step.run, hinject, hrun, hush]
      | error e t' =>
          rw [hrun] at hinject
          simp only [Step.run, hinject, hrun, hush]
  | restore slot =>
      cases hslot : slots[slot]?.join with
      | none => simp only [Step.run, hslot]
      | some bp =>
          have hrestore := indifferent_restore bp t
          cases hrun : bp.restore t with
          | ok _ t' =>
              rw [hrun] at hrestore
              simp only [Step.run, hslot, hrestore, hrun, hush]
          | error e t' =>
              rw [hrun] at hrestore
              simp only [Step.run, hslot, hrestore, hrun, hush]
  | poke addr word => rfl

theorem runSteps_hushed (arch : Arch) (slots : Slots) (t : Tracee) (steps : List Step) :
    runSteps arch slots t.hushed steps =
      (runSteps arch slots t steps).map fun (effect, t) => (effect, t.hushed) := by
  induction steps generalizing slots t with
  | nil => rfl
  | cons step steps ih =>
      unfold runSteps
      rw [run_hushed]
      dsimp only
      rw [ih]
      rfl

end Breakpoint

/-!
## A run
-/

namespace Attach

theorem indifferent_insist {ε α : Type} {call : Tracing ε α} (h : Indifferent call)
    (error : ε -> Error) : Indifferent (insist error call) := by
  apply h.onRefusal
  intro e
  apply (Indifferent.tell rfl).bind
  intro _
  exact Indifferent.throw _

theorem indifferent_abandon {ε : Type} (pid : Pid) (bp : Breakpoint) :
    Indifferent (abandon pid bp : Tracing ε Unit) :=
  (Breakpoint.indifferent_restore bp).onRefusal fun _ => Indifferent.tell rfl

theorem indifferent_awaitInitialStop (pid : Pid) :
    Indifferent (awaitInitialStop pid) := by
  unfold awaitInitialStop
  apply (Indifferent.enter _).bind
  intro _
  apply (Indifferent.wait _).bind
  intro seen
  apply Indifferent.conditional (Indifferent.throw _)
  intro _
  split
  · exact Indifferent.pure _
  · exact Indifferent.pure _
  · exact Indifferent.throw _

theorem indifferent_awaitExec (pid : Pid) : Indifferent (awaitExec pid) := by
  unfold awaitExec
  apply (Indifferent.enter _).bind
  intro _
  apply (indifferent_insist Indifferent.traceExec _).bind
  intro _
  apply (indifferent_insist Indifferent.cont _).bind
  intro _
  apply (Indifferent.enter _).bind
  intro _
  apply (Indifferent.wait _).bind
  intro seen
  apply Indifferent.conditional (Indifferent.throw _)
  intro _
  split
  · split
    · exact Indifferent.tell rfl
    · exact Indifferent.pure _
  · exact Indifferent.pure _

theorem indifferent_arm (arch : Arch) (pid : Pid) : Indifferent (arm arch pid) := by
  unfold arm
  apply (Indifferent.resolveEntry.adaptExcept _).bind
  intro entry
  apply (Indifferent.enter _).bind
  intro _
  apply (indifferent_insist (Breakpoint.indifferent_inject arch entry) _).bind
  intro bp
  apply (Indifferent.enter _).bind
  intro _
  exact Indifferent.pure _

theorem indifferent_awaitEntry (pid : Pid) (bp : Breakpoint) :
    Indifferent (awaitEntry pid bp) := by
  unfold awaitEntry
  apply (Indifferent.cont.onRefusal fun _ =>
    (indifferent_abandon pid bp).bind fun _ => Indifferent.throw _).bind
  intro _
  apply (Indifferent.enter _).bind
  intro _
  apply (Indifferent.wait _).bind
  intro seen
  split
  · apply (indifferent_abandon pid bp).bind
    intro _
    apply (Indifferent.throw _).bind
    intro _
    exact Indifferent.detail rfl
  · exact Indifferent.detail rfl

theorem indifferent_stepBack (arch : Arch) (pid : Pid) (bp : Breakpoint) :
    Indifferent (stepBack arch pid bp) := by
  have hleft (what : String) (e : Error) {α : Type} :
      Indifferent (do
        abandon pid bp
        Tracing.tell (.invariantBroken what)
        fail e : Tracing (Failure Error) α) := by
    apply (indifferent_abandon pid bp).bind
    intro _
    apply (Indifferent.tell rfl).bind
    intro _
    exact Indifferent.throw _
  unfold stepBack
  apply (Indifferent.getRegisters.onRefusal fun _ => hleft _ _).bind
  intro pointer
  apply (Indifferent.detail rfl).bind
  intro _
  apply Indifferent.conditional (Indifferent.tell rfl)
  intro _
  apply ((Indifferent.setRegisters _).onRefusal fun _ => hleft _ _).bind
  intro _
  apply (indifferent_insist (Breakpoint.indifferent_restore bp) _).bind
  intro _
  apply (Indifferent.enter _).bind
  intro _
  exact Indifferent.detail rfl

theorem indifferent_run (arch : Arch) : Indifferent (run arch) := by
  -- The run looks at the child only for its process number.
  have hparts (pid : Pid) : Indifferent (do
      awaitInitialStop pid
      awaitExec pid
      let bp ← arm arch pid
      awaitEntry pid bp
      stepBack arch pid bp
      return bp.addr : Tracing (Failure Error) Address) := by
    apply (indifferent_awaitInitialStop pid).bind
    intro _
    apply (indifferent_awaitExec pid).bind
    intro _
    apply (indifferent_arm arch pid).bind
    intro bp
    apply (indifferent_awaitEntry pid bp).bind
    intro _
    apply (indifferent_stepBack arch pid bp).bind
    intro _
    exact Indifferent.pure _
  exact fun t => hparts t.pid t

theorem attach_hushed (arch : Arch) (logging : Bool) (c : Child) :
    attach arch false c = hush (attach arch logging c) := by
  unfold attach
  rw [← Tracee.hushed_meet logging c]
  exact indifferent_run arch _

end Attach

/-!
## With and without details
-/

/-- Whether details are asked for has no influence on a run, on steps with breakpoints and
on the reading of an image: neither on what they answer nor on what they do to the child.
What is told without details is what is told with them, without the details. -/
theorem silent_eq_hushed :
    (forall (arch : Arch) (c : Child),
      Attach.attach arch false c = hush (Attach.attach arch true c)) ∧
    (forall (arch : Arch) (slots : Breakpoint.Slots) (c : Child)
        (steps : List Breakpoint.Step),
      Breakpoint.runSteps arch slots (.meet false c) steps =
        (Breakpoint.runSteps arch slots (.meet true c) steps).map
          fun (effect, t) => (effect, t.hushed)) ∧
    (forall (parse : Image.Parser) (path : String)
        (contents : Except FileError (List UInt8)),
      Entry.readImage parse false path contents =
        (Notice.essential (Entry.readImage parse true path contents).1,
          (Entry.readImage parse true path contents).2)) := by
  refine ⟨fun arch c => Attach.attach_hushed arch true c, ?_, ?_⟩
  · intro arch slots c steps
    rw [← Tracee.hushed_meet true c]
    exact Breakpoint.runSteps_hushed arch slots _ steps
  · intro parse path contents
    rw [Entry.readImage_silent, Entry.essential_readImage, Entry.readImage_image]

end EntryStop
