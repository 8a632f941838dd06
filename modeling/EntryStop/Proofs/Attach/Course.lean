import EntryStop.Proofs.Attach.Hurdle

/-!
# The course of a run

What the child looks like at each stop of a run, and that each part of the run leads
from one stop to the next or ends at a hurdle.
-/

namespace EntryStop
namespace Attach

open Tracing

/-!
## The stops

The child at its own stop, at the stop of its new program before and after a warning
about it, with the trap at its entry, at its third stop before and after its instruction
pointer is looked at, and back on its entry.
-/

def atInitialStop (c : Child) : View :=
  ((View.ofChild c).enter .waitingInitialStop).await initialStopTimeout

def execWarnings (c : Child) : List Notice :=
  match c.execStop.status with
  | some status => if status.isExec then [] else [.noExecEvent c.pid status]
  | none => []

def beforeWarnings (c : Child) : View :=
  ((((atInitialStop c).enter .armedForExecStop).act .traceExec).goOn.enter
    .waitingExecStop).await execStopTimeout

def atExec (c : Child) : View :=
  { beforeWarnings c with notices := execWarnings c }

def armed (arch : Arch) (c : Child) : View :=
  (((((atExec c).act .resolveEntry).enter .entryResolved).act
    (.readWord c.entryAddress)).store c.entryAddress (arch.patch c.entryWord)).enter
      .breakpointArmed

def atTrap (arch : Arch) (c : Child) : View :=
  ((armed arch c).goOn.enter .waitingBreakpointHit).await breakpointTimeout

def trapWarnings (arch : Arch) (c : Child) : List Notice :=
  if c.pointer = arch.afterTrap c.entryAddress then []
  else [.stoppedElsewhere c.pid c.pointer c.entryAddress]

def lookedAt (arch : Arch) (c : Child) : View :=
  { (atTrap arch c).act .getRegisters with
    notices := execWarnings c ++ trapWarnings arch c }

def arrived (arch : Arch) (c : Child) : View :=
  (((lookedAt arch c).moveTo (arch.beforeTrap c.pointer)).store
    c.entryAddress c.entryWord).enter .restored

/-!
## The parts of a run
-/

section Parts

variable (arch : Arch) (c : Child)

structure Trapped (h : Hurdle) (v : View) : Prop where
  passed : h.Passed c
  notClear : ¬ h.Clear c
  trapIn : h.trapIn = true
  stages : v.stages = Stage.all.take h.stages
  sightings : v.sightings = c.sightings.take h.waits
  actions : v.actions = (protocolOf arch c).take h.calls
  memory : v.memory = c.memory.set c.entryAddress (arch.patch c.entryWord)

variable {arch c}

theorem Halted.tell {h : Hurdle} {v : View} (hv : Halted arch c h v) (n : Notice) :
    Halted arch c h (v.tell n) where
  passed := hv.passed
  notClear := hv.notClear
  stages := hv.stages
  sightings := hv.sightings
  actions := hv.actions
  memory_of_no_trap := hv.memory_of_no_trap
  memory_of_trap htrap := by
    rcases hv.memory_of_trap htrap with hrestored | ⟨hleft, m, hm, herror⟩
    · exact Or.inl hrestored
    · exact Or.inr ⟨hleft, m, List.mem_append_left [n] hm, herror⟩

theorem Trapped.halted_store {h : Hurdle} {v : View} (hv : Trapped arch c h v) :
    Halted arch c h (v.store c.entryAddress c.entryWord) where
  passed := hv.passed
  notClear := hv.notClear
  stages := hv.stages
  sightings := hv.sightings
  actions := by
    show v.actions ++ [_] = _
    rw [hv.actions, hv.trapIn]
    rfl
  memory_of_no_trap hno := nomatch hno.symm.trans hv.trapIn
  memory_of_trap _ := by
    apply Or.inl
    show v.memory.set _ _ = _
    rw [hv.memory]

theorem Trapped.halted_tryStore {h : Hurdle} {v : View} (hv : Trapped arch c h v)
    {n : Notice} (hn : n.level = .error) :
    Halted arch c h ((v.tryStore c.entryAddress c.entryWord).tell n) where
  passed := hv.passed
  notClear := hv.notClear
  stages := hv.stages
  sightings := hv.sightings
  actions := by
    show v.actions ++ [_] = _
    rw [hv.actions, hv.trapIn]
    rfl
  memory_of_no_trap hno := nomatch hno.symm.trans hv.trapIn
  memory_of_trap _ :=
    Or.inr ⟨hv.memory, n, List.mem_append_right _ List.mem_cons_self, hn⟩

/-- A run that is stopped with the trap in tries once to take it out. -/
theorem ends_abandon {h : Hurdle} {v : View} (hv : Trapped arch c h v)
    {done : Unit -> View -> Prop} {failed : Failure Error -> View -> Prop}
    (hdone : forall v', Halted arch c h v' -> done () v') :
    Ends (abandon c.pid (trapOf arch c)) v done failed :=
  Ends.abandon (hdone _ hv.halted_store)
    (fun _ => hdone _ (hv.halted_tryStore rfl))

variable (arch c)

theorem ends_awaitInitialStop :
    Ends (awaitInitialStop c.pid) (View.ofChild c)
      (fun _ v => v = atInitialStop c ∧ Hurdle.initialStop.Clear c)
      (fun f v => Halted arch c (hurdleOf f) v) := by
  have hhalted (h : ¬ Hurdle.initialStop.Clear c) :
      Halted arch c .initialStop (atInitialStop c) :=
    ⟨Hurdle.passed_initialStop c, h, rfl, rfl, rfl, fun _ => rfl, nofun⟩
  unfold awaitInitialStop
  apply Ends.bind
  apply Ends.enter
  apply Ends.bind
  apply Ends.wait (s := c.initialStop) rfl
  change Ends _ (atInitialStop c) _ _
  cases hstopped : c.initialStop.stopped with
  | false =>
      apply Ends.bind
      apply Ends.fail
      apply hhalted
      intro hclear
      rw [hclear.left] at hstopped
      cases hstopped
  | true =>
      simp only [Bool.not_true, Bool.false_eq_true, if_false]
      split
      · next hstatus =>
          refine Ends.pure ⟨rfl, hstopped, fun s hs => ?_⟩
          rw [hstatus] at hs
          cases hs
      · next pid hstatus =>
          refine Ends.pure ⟨rfl, hstopped, fun s hs => ?_⟩
          rw [hstatus] at hs
          cases hs
          exact ⟨pid, rfl⟩
      · next status hother hstatus =>
          apply Ends.fail
          apply hhalted
          intro hclear
          rcases hclear.right status hstatus with ⟨pid, hpid⟩
          exact hother pid hpid

theorem ends_awaitExec (hclear : Hurdle.initialStop.Clear c) :
    Ends (awaitExec c.pid) (atInitialStop c)
      (fun _ v => v = atExec c ∧ Hurdle.Passed c .entry)
      (fun f v => Halted arch c (hurdleOf f) v) := by
  have htracing : Hurdle.Passed c .tracing :=
    (Hurdle.passed_initialStop c).next hclear rfl
  unfold awaitExec
  apply Ends.bind
  apply Ends.enter
  apply Ends.bind
  apply Ends.insist
  refine Ends.traceExec (fun htraced => ?_) (fun reason hrefused => ?_)
  rotate_left
  · exact ⟨htracing, (fun hnone => nomatch hnone.symm.trans hrefused),
      rfl, rfl, rfl, fun _ => rfl, nofun⟩
  have hfirst : Hurdle.Passed c .firstContinue := htracing.next htraced rfl
  apply Ends.bind
  apply Ends.insist
  refine Ends.cont (fun hcontinued => ?_) (fun reason hrefused => ?_)
  rotate_left
  · exact ⟨hfirst, (fun hnone => nomatch hnone.symm.trans hrefused),
      rfl, rfl, rfl, fun _ => rfl, nofun⟩
  have hexec : Hurdle.Passed c .execStop := hfirst.next hcontinued rfl
  apply Ends.bind
  apply Ends.enter
  apply Ends.bind
  apply Ends.wait (s := c.execStop) rfl
  change Ends _ (beforeWarnings c) _ _
  cases hstopped : c.execStop.stopped with
  | false =>
      have hhalted : Halted arch c .execStop (beforeWarnings c) :=
        ⟨hexec, (fun htrue => nomatch htrue.symm.trans hstopped),
          rfl, rfl, rfl, fun _ => rfl, nofun⟩
      apply Ends.bind
      apply Ends.fail
      split
      · exact hhalted
      · exact hhalted
  | true =>
      have hentry : Hurdle.Passed c .entry := hexec.next hstopped rfl
      simp only [Bool.not_true, Bool.false_eq_true, if_false]
      have hwarned (notices : List Notice) (h : execWarnings c = notices) :
          { beforeWarnings c with notices } = atExec c ∧ Hurdle.Passed c .entry := by
        rw [← h]
        exact ⟨rfl, hentry⟩
      cases hstatus : c.execStop.status with
      | none =>
          apply Ends.pure
          exact hwarned [] (by simp [execWarnings, hstatus])
      | some status =>
          cases hevent : status.isExec with
          | true =>
              simp only [hevent, Bool.not_true, Bool.false_eq_true, if_false]
              apply Ends.pure
              exact hwarned [] (by simp [execWarnings, hstatus, hevent])
          | false =>
              simp only [hevent, Bool.not_false, if_true]
              apply Ends.tell rfl
              exact hwarned [.noExecEvent c.pid status]
                (by simp [execWarnings, hstatus, hevent])

theorem ends_arm (hentry : Hurdle.Passed c .entry) :
    Ends (arm arch c.pid) (atExec c)
      (fun bp v => bp = trapOf arch c ∧ v = armed arch c ∧
        Hurdle.Passed c .secondContinue)
      (fun f v => Halted arch c (hurdleOf f) v) := by
  unfold arm
  apply Ends.bind
  apply Ends.adaptExcept
  refine Ends.resolveEntry (fun entry hresolved => ?_) (fun failure hfailure => ?_)
  rotate_left
  · change c.entry = .error failure at hfailure
    have hhurdle : hurdleOf (failure.map .noEntry) = .entry := by
      cases failure <;> rfl
    rw [hhurdle]
    exact ⟨hentry, (fun hok => nomatch hok.symm.trans hfailure),
      rfl, rfl, rfl, fun _ => rfl, nofun⟩
  change c.entry = .ok entry at hresolved
  have haddr : entry = c.entryAddress := by
    simp [Child.entryAddress, hresolved]
  subst haddr
  have hword : Hurdle.Passed c .word := hentry.next hresolved rfl
  apply Ends.bind
  apply Ends.enter
  apply Ends.bind
  apply Ends.insist
  refine Ends.inject (fun word hread hmapped hwritten => ?_) (fun reason hrefused => ?_)
    (fun word reason hread hmapped hrefused => ?_)
  · change c.memory.get? c.entryAddress = some word at hmapped
    have heq : word = c.entryWord := by
      simp [Child.entryWord, hmapped]
    subst heq
    have htrap : Hurdle.Passed c .trap := hword.next ⟨hread, hmapped⟩ rfl
    apply Ends.bind
    apply Ends.enter
    exact Ends.pure ⟨rfl, rfl, htrap.next hwritten rfl⟩
  · refine ⟨hword, ?_, rfl, rfl, rfl, fun _ => rfl, nofun⟩
    intro hclear
    rcases hrefused with hreason | hunmapped
    · exact nomatch hclear.left.symm.trans hreason
    · exact nomatch hclear.right.symm.trans hunmapped.left
  · change c.memory.get? c.entryAddress = some word at hmapped
    have heq : word = c.entryWord := by
      simp [Child.entryWord, hmapped]
    subst heq
    have htrap : Hurdle.Passed c .trap := hword.next ⟨hread, hmapped⟩ rfl
    exact ⟨htrap, (fun hnone => nomatch hnone.symm.trans hrefused),
      rfl, rfl, rfl, fun _ => rfl, nofun⟩

theorem ends_awaitEntry (hpassed : Hurdle.Passed c .secondContinue) :
    Ends (awaitEntry c.pid (trapOf arch c)) (armed arch c)
      (fun _ v => v = atTrap arch c ∧ Hurdle.Passed c .registersRead)
      (fun f v => Halted arch c (hurdleOf f) v) := by
  unfold awaitEntry
  apply Ends.bind
  apply Ends.onRefusal
  refine Ends.cont (fun hcontinued => ?_) (fun reason hrefused => ?_)
  rotate_left
  · apply Ends.bind
    refine ends_abandon (h := .secondContinue) ⟨hpassed,
      (fun hnone => nomatch hnone.symm.trans hrefused), rfl, rfl, rfl, rfl, rfl⟩
      (fun v hhalted => ?_)
    exact Ends.fail hhalted
  have htrapStop : Hurdle.Passed c .trapStop := hpassed.next hcontinued rfl
  apply Ends.bind
  apply Ends.enter
  apply Ends.bind
  apply Ends.wait (s := c.trapStop) rfl
  change Ends _ (atTrap arch c) _ _
  cases hstopped : c.trapStop.stopped with
  | false =>
      apply Ends.bind
      refine ends_abandon (h := .trapStop) ⟨htrapStop,
        (fun htrue => nomatch htrue.symm.trans hstopped), rfl, rfl, rfl, rfl, rfl⟩
        (fun v hhalted => ?_)
      apply Ends.bind
      exact Ends.fail hhalted
  | true =>
      apply Ends.detail rfl
      exact ⟨rfl, htrapStop.next hstopped rfl⟩

theorem ends_stepBack (hpassed : Hurdle.Passed c .registersRead) :
    Ends (stepBack arch c.pid (trapOf arch c)) (atTrap arch c)
      (fun _ v => v = arrived arch c ∧ forall h : Hurdle, h.Clear c)
      (fun f v => Halted arch c (hurdleOf f) v) := by
  unfold stepBack
  apply Ends.bind
  apply Ends.onRefusal
  refine Ends.getRegisters (fun hread => ?_) (fun reason hrefused => ?_)
  rotate_left
  · apply Ends.bind
    refine ends_abandon (h := .registersRead) ⟨hpassed,
      (fun hnone => nomatch hnone.symm.trans hrefused), rfl, rfl, rfl, rfl, rfl⟩
      (fun v hhalted => ?_)
    apply Ends.bind
    apply Ends.tell rfl
    exact Ends.fail (hhalted.tell _)
  have hwritten : Hurdle.Passed c .registersWritten := hpassed.next hread rfl
  apply Ends.bind
  apply Ends.detail rfl
  -- What follows the warning is the same without it, so it is proved once for both.
  extract_lets rest
  have hrest : Ends (rest ()) (lookedAt arch c)
      (fun _ v => v = arrived arch c ∧ forall h : Hurdle, h.Clear c)
      (fun f v => Halted arch c (hurdleOf f) v) := by
    apply Ends.bind
    apply Ends.onRefusal
    refine Ends.setRegisters (fun hset => ?_) (fun reason hrefused => ?_)
    rotate_left
    · apply Ends.bind
      refine ends_abandon (h := .registersWritten) ⟨hwritten,
        (fun hnone => nomatch hnone.symm.trans hrefused), rfl, rfl, rfl, rfl, rfl⟩
        (fun v hhalted => ?_)
      apply Ends.bind
      apply Ends.tell rfl
      exact Ends.fail (hhalted.tell _)
    have hremoval : Hurdle.Passed c .removal := hwritten.next hset rfl
    apply Ends.bind
    apply Ends.insist
    refine Ends.restore (fun hrestored => ?_) (fun reason hrefused => ?_)
    rotate_left
    · exact Trapped.halted_tryStore (h := .removal) ⟨hremoval,
        (fun hnone => nomatch hnone.symm.trans hrefused), rfl, rfl, rfl, rfl, rfl⟩ rfl
    apply Ends.bind
    apply Ends.enter
    apply Ends.detail rfl
    exact ⟨rfl, hremoval.all hrestored⟩
  have hlooked (notices : List Notice) (h : trapWarnings arch c = notices) :
      { (atTrap arch c).act .getRegisters with
        notices := execWarnings c ++ notices } = lookedAt arch c := by
    rw [← h]
    rfl
  split
  · next helsewhere =>
      apply Ends.bind
      apply Ends.tell rfl
      rw [← hlooked [.stoppedElsewhere c.pid c.pointer c.entryAddress]
        (if_neg helsewhere)] at hrest
      exact hrest
  · next hhit =>
      have hnone : trapWarnings arch c = [] := if_pos (Decidable.not_not.mp hhit)
      rw [← hlooked [] hnone, List.append_nil] at hrest
      exact hrest

/-!
## The whole run
-/

theorem ends_run :
    Ends (run arch) (View.ofChild c)
      (fun entry v => entry = c.entryAddress ∧ v = arrived arch c ∧
        forall h : Hurdle, h.Clear c)
      (fun f v => Halted arch c (hurdleOf f) v) := by
  unfold run
  apply Ends.get
  intro t ht
  have hpid : t.pid = c.pid := congrArg (fun v : View => v.pid) ht
  simp only [hpid]
  apply Ends.bind
  refine (ends_awaitInitialStop arch c).weaken ?_ (fun _ _ hhalted => hhalted)
  rintro _ _ ⟨rfl, hclear⟩
  apply Ends.bind
  refine (ends_awaitExec arch c hclear).weaken ?_ (fun _ _ hhalted => hhalted)
  rintro _ _ ⟨rfl, hentry⟩
  apply Ends.bind
  refine (ends_arm arch c hentry).weaken ?_ (fun _ _ hhalted => hhalted)
  rintro _ _ ⟨rfl, rfl, harmed⟩
  apply Ends.bind
  refine (ends_awaitEntry arch c harmed).weaken ?_ (fun _ _ hhalted => hhalted)
  rintro _ _ ⟨rfl, hhit⟩
  apply Ends.bind
  refine (ends_stepBack arch c hhit).weaken ?_ (fun _ _ hhalted => hhalted)
  rintro _ _ ⟨rfl, hall⟩
  exact Ends.pure ⟨rfl, rfl, hall⟩

end Parts

def left {ε α : Type} : EStateM.Result ε Tracee α -> Tracee
  | .ok _ t => t
  | .error _ t => t

theorem run_cases (arch : Arch) {c : Child} {t : Tracee} (ht : t.view = View.ofChild c) :
    (run arch t = .ok c.entryAddress (left (run arch t)) ∧
      (left (run arch t)).view = arrived arch c ∧ forall h : Hurdle, h.Clear c) ∨
    (exists f, run arch t = .error f (left (run arch t)) ∧
      Halted arch c (hurdleOf f) (left (run arch t)).view) := by
  have hends := ends_run arch c t ht
  cases hrun : run arch t with
  | ok entry t' =>
      rw [hrun] at hends
      rcases hends with ⟨rfl, hview, hclear⟩
      exact Or.inl ⟨rfl, hview, hclear⟩
  | error f t' =>
      rw [hrun] at hends
      exact Or.inr ⟨f, rfl, hends⟩

theorem attach_cases (arch : Arch) (logging : Bool) (c : Child) :
    (attach arch logging c = .ok c.entryAddress (left (attach arch logging c)) ∧
      (left (attach arch logging c)).view = arrived arch c ∧
      forall h : Hurdle, h.Clear c) ∨
    (exists f, attach arch logging c = .error f (left (attach arch logging c)) ∧
      Halted arch c (hurdleOf f) (left (attach arch logging c)).view) :=
  run_cases arch (Tracee.view_meet logging c)

/-- A child that shows one outlook for each wait, has its instruction pointer at `pointer`
when it has stopped for the third time, and grants every call. -/
def willing (initial exec trap : Outlook) (pointer : Address) : Child where
  pid := 1234
  outlooks := [initial, exec, trap]
  memory := .ofList [(0x401000, 0x4855fa1e0f6690c3)]
  pointer
  source := .answer (.ok 0x401000)
  refusals := .none

def showing (status : Status) : Outlook :=
  ⟨[some status], [], []⟩

def trapped : Child :=
  willing (showing (.stopped 1234 .stop))
    (showing (.event 1234 .trap Status.execEvent))
    (showing (.stopped 1234 .trap)) 0x401001

end Attach
end EntryStop
