import EntryStop.Launch.Session
import EntryStop.Proofs.Debugger.Release
import EntryStop.Proofs.Debugger.TracerLine
import EntryStop.Proofs.Tracing.Ends

/-!
# Held children

No call that lets a held child go is refused.  With a delay it is left suspended, and whether
it is told to continue depends on the process that has meddled with it in the meantime.  As
long as it is held, a further breakpoint can be put in wherever its program is mapped.
-/

namespace EntryStop
namespace Launch

/-!
## What polls find
-/

theorem tracerPid_statusText (tracer : Pid) :
    Debugger.tracerPid (statusText tracer) = some tracer := by
  have hgap : forall c, c ∈ ['\t'] -> Text.isBlank c = true := List.forall_mem_singleton.mpr rfl
  have hline : Debugger.TracerLine ("TracerPid:\t".toList ++ tracer.text.toList) tracer := by
    have hnone : forall c, c ∈ ([] : List Char) -> Text.isBlank c = true := nofun
    have h := Debugger.tracerLine_text tracer hgap hnone
    rwa [List.append_nil] at h
  apply Debugger.tracerPid_eq_some_iff.mpr
  refine ⟨"Name:\tchild\n".toList, _, "\n".toList, ?_, by decide, by decide, ?_, hline, ?_⟩
  · simp [statusText]
  · intro hnewline
    rcases List.mem_append.mp hnewline with hlabel | hnumeral
    · exact absurd hlabel (by decide)
    · exact nomatch (Numeral.denotes_toString tracer.toInt).isBlank_eq_false hnumeral
  · intro c hc
    exact (Option.some.inj hc).symm

section

variable {timeout : Word} (htimeout : 0 < timeout) (tracer : Pid)
include htimeout

theorem await_first_poll (polls : List (Option Pid)) :
    Debugger.await timeout [some 1, some 1, some 1] (some 0 :: polls) =
      let later := Debugger.awaitFrom 1 timeout [some 1] polls
      { later with polls := later.polls + 1 } := by
  have hearly : ¬ timeout ≤ Clock.elapsed 1 (some 1) := UInt64.not_le.mpr htimeout
  rw [Debugger.await, Debugger.awaitFrom, if_neg (fun h => h rfl)]
  exact if_neg hearly

theorem await_attached (htracer : tracer ≠ 0) :
    Debugger.await timeout [some 1, some 1, some 1] [some 0, some tracer] =
      ⟨some tracer, 2, 0, [.attached tracer 0]⟩ := by
  rw [await_first_poll htimeout, Debugger.awaitFrom, if_pos htracer]
  rfl

theorem await_gone :
    Debugger.await timeout [some 1, some 1, some 1] [some 0, none] =
      ⟨none, 2, 1, [.timedOut]⟩ := by
  rw [await_first_poll htimeout]
  rfl

end

/-!
## Held children
-/

section

variable {c : Stopped} (hheld : c.isHeld = true) (hpid : c.tracee.pid ≠ 0)
include hheld

theorem target_of_held (helper : Option Helper) : target c helper =
    { pid := c.tracee.pid
      pointer := some c.tracee.pointer
      detach := none
      detachStopped := none
      sendContinue := if helper = some .kill then some Errno.noProcess.text else none
      statuses := (helper.map (Helper.statuses c.tracee.pid)).getD []
      clock := [some 1, some 1, some 1] } := by
  simp only [target, hheld, if_true]

include hpid

theorem release_of_held_at_once (helper : Option Helper) :
    release c helper 0 = .ok ⟨[.detach], []⟩ := by
  rw [release, target_of_held hheld, Release.run, if_neg hpid]
  rfl

theorem release_of_held {delay : UInt32} (hdelay : 0 < delay) :
    release c none delay =
      .ok ⟨[.readPointer, .detachStopped, .sendContinue], [.awaited .timedOut]⟩ ∧
    (c.tracee.pid + 1 ≠ 0 -> release c (some .attach) delay =
      .ok ⟨[.readPointer, .detachStopped],
        [.awaited (.attached (c.tracee.pid + 1) 0)]⟩) ∧
    release c (some .kill) delay =
      .ok ⟨[.readPointer, .detachStopped, .sendContinue],
        [.awaited .timedOut, .continueRefused c.tracee.pid Errno.noProcess.text]⟩ := by
  rcases Clock.exists_seconds delay with ⟨timeout, hseconds, hvalue⟩
  have htimeout : 0 < timeout := by
    rw [UInt64.lt_iff_toNat_lt, hvalue]
    exact Nat.mul_pos (UInt32.lt_iff_toNat_lt.mp hdelay) (by decide)
  have hnonzero : delay ≠ 0 := Ne.symm (UInt32.ne_of_lt hdelay)
  have hrun (helper : Option Helper) : release c helper delay =
      .ok { Release.suspend (target c helper) timeout with
        actions := .readPointer :: (Release.suspend (target c helper) timeout).actions } := by
    rw [release, Release.run, target_of_held hheld, if_neg hpid, if_neg hnonzero, hseconds]
    rfl
  rw [hrun, hrun, hrun, target_of_held hheld, target_of_held hheld, target_of_held hheld]
  refine ⟨rfl, fun htracer => ?_, ?_⟩
  · simp only [Release.suspend, Option.map_some, Option.getD_some, Helper.statuses,
      List.map_cons, List.map_nil, Option.bind_some, tracerPid_statusText,
      await_attached htimeout _ htracer]
    rfl
  · simp only [Release.suspend, Option.map_some, Option.getD_some, Helper.statuses,
      List.map_cons, List.map_nil, Option.bind_some, Option.bind_none, tracerPid_statusText,
      await_gone htimeout]
    rfl

/-- After a release with a delay a held child stays stopped exactly if a debugger has attached
to it, since it is not told to continue then. -/
theorem leftStopped_iff {delay : UInt32} (hdelay : 0 < delay) (htracer : c.tracee.pid + 1 ≠ 0)
    (helper : Option Helper) :
    exists report, release c helper delay = .ok report ∧ .detach ∉ report.actions ∧
      (leftStopped c helper = true ↔ .sendContinue ∉ report.actions) := by
  rcases release_of_held hheld hpid hdelay with ⟨halone, hattached, hkilled⟩
  rw [leftStopped, hheld]
  cases helper with
  | none => exact ⟨_, halone, by simp, by simp⟩
  | some helper =>
      cases helper with
      | attach => exact ⟨_, hattached htracer, by simp, by simp⟩
      | kill => exact ⟨_, hkilled, by simp, by simp⟩

end

/-!
## Further breakpoints
-/

section

variable {t : Tracee} {addr : Address} {word : Word}
  (hrefusals : t.refusals = .none)
include hrefusals

theorem inject_of_granted (arch : Arch) (hword : t.memory.get? addr = some word) :
    exists t', Breakpoint.inject arch addr t = .ok ⟨addr, word, arch.patch word⟩ t' ∧
      t'.memory = t.memory.set addr (arch.patch word) ∧ t'.refusals = .none := by
  have hview : t.view.refusals = .none := hrefusals
  have hends : Tracing.Ends (Breakpoint.inject arch addr) t.view
      (fun bp v => bp = ⟨addr, word, arch.patch word⟩ ∧
        v.memory = t.memory.set addr (arch.patch word) ∧ v.refusals = .none)
      (fun _ _ => False) := by
    refine Tracing.Ends.inject (fun saved _ hsaved _ => ?_) (fun reason hrefused => ?_)
      (fun saved reason _ _ hrefused => ?_)
    · cases hsaved.symm.trans hword
      refine ⟨rfl, rfl, ?_⟩
      show { t.view.refusals with writeWord := t.view.refusals.writeWord.tail } = _
      rw [hview]
      rfl
    · rcases hrefused with hreason | ⟨hnone, _⟩
      · rw [hview] at hreason
        cases hreason
      · cases hnone.symm.trans hword
    · rw [hview] at hrefused
      cases hrefused
  rcases hends.exists_ok rfl with ⟨_, t', hinject, rfl, hmemory, hgranted⟩
  exact ⟨t', hinject, hmemory, hgranted⟩

theorem restore_of_granted (bp : Breakpoint) :
    exists t', bp.restore t = .ok () t' ∧ t'.memory = t.memory.set bp.addr bp.saved := by
  have hview : t.view.refusals = .none := hrefusals
  have hends : Tracing.Ends bp.restore t.view
      (fun _ v => v.memory = t.memory.set bp.addr bp.saved) (fun _ _ => False) := by
    refine Tracing.Ends.restore (fun _ => rfl) (fun reason hrefused => ?_)
    rw [hview] at hrefused
    cases hrefused
  rcases hends.exists_ok rfl with ⟨_, t', hrestore, hmemory⟩
  exact ⟨t', hrestore, hmemory⟩

end

theorem poked_eq_isSome {s : Setting} {c : Stopped} {entry : Address}
    (hentry : entryOf s c.tracee.pid (imageAfter s c.course.event) = some entry)
    (offset : Word) :
    c.poked s offset = ((c.tracee.memory.get? (entry + offset)).or
      ((imageAfter s c.course.event).word? (entry + offset))).isSome := by
  simp only [Stopped.poked, hentry]
  cases (c.tracee.memory.get? (entry + offset)).or
      ((imageAfter s c.course.event).word? (entry + offset)) with
  | none => rfl
  | some word =>
      have hword : (c.tracee.memory.set (entry + offset) word).get? (entry + offset) =
          some word := Memory.get?_set_self _ _ _
      rcases inject_of_granted
        (t := { c.tracee with
          refusals := .none, memory := c.tracee.memory.set (entry + offset) word })
        rfl .x86_64 hword with ⟨t, hinject, hpatched, hgranted⟩
      rcases restore_of_granted hgranted ⟨entry + offset, word, Arch.x86_64.patch word⟩ with
        ⟨t', hrestore, hrestored⟩
      simp only [hinject, hrestore, hpatched, hrestored, Memory.get?_set_self, beq_self_eq_true,
        Bool.and_self, Option.isSome_some]

end Launch
end EntryStop
