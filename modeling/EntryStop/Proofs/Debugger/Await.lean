import EntryStop.Debugger.Await

/-!
# The last poll of a wait for a debugger

The polls of a wait are numbered from zero.  The wait ends with the first poll that finds
the process gone, finds a tracer, or finds none when the time is over.  Only a tracer keeps
the process from being resumed.
-/

namespace EntryStop
namespace Debugger

/-!
## Polls
-/

/-- The answer to the poll with this number; past the last one the process is gone. -/
def answerAt (polls : List (Option Pid)) (k : Nat) : Option Pid :=
  polls.getD k none

def elapsedAt (start : Word) (clock : List Clock.Reading) (k : Nat) : Word :=
  Clock.elapsed start (clock.getD k none)

def TracerAt (polls : List (Option Pid)) (k : Nat) : Prop :=
  exists tracer, tracer ≠ 0 ∧ answerAt polls k = some tracer

theorem headD_eq_getD (clock : List Clock.Reading) :
    clock.headD none = clock.getD 0 none := by
  cases clock with
  | nil => rfl
  | cons now clock => rfl

theorem elapsedAt_zero (start : Word) (clock : List Clock.Reading) :
    elapsedAt start clock 0 = Clock.elapsed start (clock.headD none) := by
  rw [elapsedAt, headD_eq_getD]

theorem elapsedAt_succ (start : Word) (clock : List Clock.Reading) (k : Nat) :
    elapsedAt start clock (k + 1) = elapsedAt start clock.tail k := by
  cases clock with
  | nil => rfl
  | cons now clock => rfl

theorem not_tracerAt_of_none {polls : List (Option Pid)} {k : Nat}
    (h : answerAt polls k = none) : ¬ TracerAt polls k := by
  rintro ⟨tracer, _, hanswer⟩
  cases h.symm.trans hanswer

theorem not_tracerAt_of_zero {polls : List (Option Pid)} {k : Nat}
    (h : answerAt polls k = some 0) : ¬ TracerAt polls k := by
  rintro ⟨tracer, hne, hanswer⟩
  rw [h] at hanswer
  exact hne (Option.some.inj hanswer).symm

/-!
## The last poll
-/

section

variable (start timeout : Word) (clock : List Clock.Reading) (polls : List (Option Pid))

def EndsAt (k : Nat) : Prop :=
  answerAt polls k = none ∨ TracerAt polls k ∨
    answerAt polls k = some 0 ∧ timeout ≤ elapsedAt start clock k

structure LastPoll (k : Nat) : Prop where
  ends : EndsAt start timeout clock polls k
  goesOn : forall j, j < k -> ¬ EndsAt start timeout clock polls j

structure EndedAt (k : Nat) (w : Awaited) : Prop where
  last : LastPoll start timeout clock polls k
  attached : forall tracer, tracer ≠ 0 -> answerAt polls k = some tracer ->
    w = ⟨some tracer, k + 1, 0, [.attached tracer (elapsedAt start clock k)]⟩
  timedOut : ¬ TracerAt polls k -> w = ⟨none, k + 1, 1, [.timedOut]⟩

end

section

variable {start timeout : Word} {clock : List Clock.Reading} {polls : List (Option Pid)}
  {poll : Option Pid} {j k : Nat} {v w : Awaited}

theorem endsAt_iff_of_zero (h : answerAt polls k = some 0) :
    EndsAt start timeout clock polls k ↔ timeout ≤ elapsedAt start clock k := by
  constructor
  · rintro (hnone | htracer | ⟨_, hlate⟩)
    · cases h.symm.trans hnone
    · exact absurd htracer (not_tracerAt_of_zero h)
    · exact hlate
  · intro hlate
    exact Or.inr (Or.inr ⟨h, hlate⟩)

theorem endsAt_succ_iff :
    EndsAt start timeout clock (poll :: polls) (k + 1) ↔
      EndsAt start timeout clock.tail polls k := by
  rw [EndsAt, EndsAt, elapsedAt_succ]
  exact Iff.rfl

theorem lastPoll_zero (h : EndsAt start timeout clock polls 0) :
    LastPoll start timeout clock polls 0 :=
  ⟨h, fun j hj => absurd hj (Nat.not_lt_zero j)⟩

theorem LastPoll.succ (hgoesOn : ¬ EndsAt start timeout clock (poll :: polls) 0)
    (h : LastPoll start timeout clock.tail polls k) :
    LastPoll start timeout clock (poll :: polls) (k + 1) where
  ends := endsAt_succ_iff.mpr h.ends
  goesOn j hj := by
    cases j with
    | zero => exact hgoesOn
    | succ j =>
        rw [endsAt_succ_iff]
        exact h.goesOn j (Nat.lt_of_succ_lt_succ hj)

theorem LastPoll.unique (hj : LastPoll start timeout clock polls j)
    (hk : LastPoll start timeout clock polls k) : j = k := by
  rcases Nat.lt_trichotomy j k with hlt | heq | hgt
  · exact absurd hj.ends (hk.goesOn j hlt)
  · exact heq
  · exact absurd hk.ends (hj.goesOn k hgt)

theorem LastPoll.eq_of_tracerAt (h : LastPoll start timeout clock polls k) (hj : j ≤ k)
    (htracer : TracerAt polls j) : j = k := by
  rcases Nat.lt_or_eq_of_le hj with hlt | heq
  · exact absurd (Or.inr (Or.inl htracer)) (h.goesOn j hlt)
  · exact heq

theorem LastPoll.not_tracerAt (h : LastPoll start timeout clock polls k)
    (hnone : ¬ TracerAt polls k) (hj : j ≤ k) : ¬ TracerAt polls j := by
  intro htracer
  cases h.eq_of_tracerAt hj htracer
  exact hnone htracer

/-!
## Waits
-/

theorem endedAt_attached {tracer : Pid} (htracer : tracer ≠ 0)
    (hanswer : answerAt polls 0 = some tracer) :
    EndedAt start timeout clock polls 0 (.attached tracer (elapsedAt start clock 0)) where
  last := lastPoll_zero (Or.inr (Or.inl ⟨tracer, htracer, hanswer⟩))
  attached other _ hother := by
    cases hanswer.symm.trans hother
    rfl
  timedOut hnone := absurd ⟨tracer, htracer, hanswer⟩ hnone

theorem endedAt_timedOut (hnone : ¬ TracerAt polls 0)
    (hends : EndsAt start timeout clock polls 0) :
    EndedAt start timeout clock polls 0 (.timedOut 1) where
  last := lastPoll_zero hends
  attached tracer htracer hanswer := absurd ⟨tracer, htracer, hanswer⟩ hnone
  timedOut _ := rfl

theorem EndedAt.succ (hgoesOn : ¬ EndsAt start timeout clock (poll :: polls) 0)
    (h : EndedAt start timeout clock.tail polls k w) :
    EndedAt start timeout clock (poll :: polls) (k + 1) { w with polls := w.polls + 1 } where
  last := h.last.succ hgoesOn
  attached tracer htracer hanswer := by
    rw [h.attached tracer htracer hanswer, elapsedAt_succ]
  timedOut hnone := by
    rw [h.timedOut hnone]

theorem EndedAt.cases (h : EndedAt start timeout clock polls k w) :
    (exists tracer, tracer ≠ 0 ∧ answerAt polls k = some tracer ∧
      w = ⟨some tracer, k + 1, 0, [.attached tracer (elapsedAt start clock k)]⟩) ∨
    (¬ TracerAt polls k ∧ w = ⟨none, k + 1, 1, [.timedOut]⟩) := by
  by_cases htracer : TracerAt polls k
  · rcases htracer with ⟨tracer, hne, hanswer⟩
    exact Or.inl ⟨tracer, hne, hanswer, h.attached tracer hne hanswer⟩
  · exact Or.inr ⟨htracer, h.timedOut htracer⟩

theorem EndedAt.polls_eq (h : EndedAt start timeout clock polls k w) :
    w.polls = k + 1 := by
  rcases h.cases with ⟨tracer, _, _, rfl⟩ | ⟨_, rfl⟩
  · rfl
  · rfl

theorem EndedAt.resumes_eq (h : EndedAt start timeout clock polls k w) :
    w.resumes = if w.tracer = none then 1 else 0 := by
  rcases h.cases with ⟨tracer, _, _, rfl⟩ | ⟨_, rfl⟩
  · rfl
  · rfl

theorem EndedAt.exists_notice (h : EndedAt start timeout clock polls k w) :
    exists n, w.notices = [n] ∧ forall inSeconds, (n.record inSeconds).level = .info := by
  rcases h.cases with ⟨tracer, _, _, rfl⟩ | ⟨_, rfl⟩
  · exact ⟨_, rfl, fun _ => rfl⟩
  · exact ⟨_, rfl, fun _ => rfl⟩

theorem EndedAt.unique (hv : EndedAt start timeout clock polls j v)
    (hw : EndedAt start timeout clock polls k w) : v = w := by
  cases hv.last.unique hw.last
  rcases hv.cases with ⟨tracer, hne, hanswer, rfl⟩ | ⟨hnone, rfl⟩
  · exact (hw.attached tracer hne hanswer).symm
  · exact (hw.timedOut hnone).symm

theorem EndedAt.attached_iff {tracer other : Pid} (h : EndedAt start timeout clock polls k w)
    (hj : j ≤ k) (hanswer : answerAt polls j = some tracer) :
    w.polls = j + 1 ∧ w.tracer = some other ↔ other = tracer ∧ tracer ≠ 0 := by
  constructor
  · intro hfound
    rcases hfound with ⟨hpolls, hother⟩
    rw [h.polls_eq] at hpolls
    cases Nat.succ.inj hpolls
    by_cases hzero : tracer = 0
    · rw [hzero] at hanswer
      rw [h.timedOut (not_tracerAt_of_zero hanswer)] at hother
      cases hother
    · rw [h.attached tracer hzero hanswer] at hother
      exact ⟨(Option.some.inj hother).symm, hzero⟩
  · intro hfound
    rcases hfound with ⟨rfl, hne⟩
    cases h.last.eq_of_tracerAt hj ⟨other, hne, hanswer⟩
    rw [h.attached other hne hanswer]
    exact ⟨rfl, rfl⟩

theorem EndedAt.congr {readings : List Clock.Reading} {answers : List (Option Pid)}
    (hclock : forall j, j ≤ k -> elapsedAt start readings j = elapsedAt start clock j)
    (hpolls : forall j, j ≤ k -> answerAt answers j = answerAt polls j)
    (h : EndedAt start timeout clock polls k w) :
    EndedAt start timeout readings answers k w := by
  have htracers : forall j, j ≤ k -> (TracerAt answers j ↔ TracerAt polls j) := by
    intro j hj
    rw [TracerAt, TracerAt, hpolls j hj]
  have hends : forall j, j ≤ k ->
      (EndsAt start timeout readings answers j ↔ EndsAt start timeout clock polls j) := by
    intro j hj
    rw [EndsAt, EndsAt, htracers j hj, hpolls j hj, hclock j hj]
  constructor
  · constructor
    · exact (hends k (Nat.le_refl k)).mpr h.last.ends
    · intro j hj
      rw [hends j (Nat.le_of_lt hj)]
      exact h.last.goesOn j hj
  · intro tracer hne hanswer
    rw [hpolls k (Nat.le_refl k)] at hanswer
    rw [h.attached tracer hne hanswer, hclock k (Nat.le_refl k)]
  · intro hnone
    rw [htracers k (Nat.le_refl k)] at hnone
    exact h.timedOut hnone

end

theorem exists_endedAt (start timeout : Word) (clock : List Clock.Reading)
    (polls : List (Option Pid)) :
    exists k, EndedAt start timeout clock polls k (awaitFrom start timeout clock polls) := by
  induction polls generalizing clock with
  | nil => exact ⟨0, endedAt_timedOut (not_tracerAt_of_none rfl) (Or.inl rfl)⟩
  | cons poll polls ih =>
      cases poll with
      | none => exact ⟨0, endedAt_timedOut (not_tracerAt_of_none rfl) (Or.inl rfl)⟩
      | some tracer =>
          unfold awaitFrom
          rw [← elapsedAt_zero]
          by_cases htracer : tracer = 0
          · have hanswer : answerAt (some tracer :: polls) 0 = some 0 := by
              rw [htracer]
              rfl
            simp only [if_neg (not_not_intro htracer)]
            by_cases hlate : timeout ≤ elapsedAt start clock 0
            · simp only [if_pos hlate]
              refine ⟨0, endedAt_timedOut (not_tracerAt_of_zero hanswer) ?_⟩
              rw [endsAt_iff_of_zero hanswer]
              exact hlate
            · simp only [if_neg hlate]
              rcases ih clock.tail with ⟨k, hk⟩
              refine ⟨k + 1, hk.succ ?_⟩
              rw [endsAt_iff_of_zero hanswer]
              exact hlate
          · simp only [if_pos (show tracer ≠ 0 from htracer)]
            exact ⟨0, endedAt_attached htracer rfl⟩

theorem exists_endedAt_await (timeout : Word) (clock : List Clock.Reading)
    (polls : List (Option Pid)) :
    exists k, EndedAt (Clock.stamp (clock.headD none)) timeout clock.tail polls k
      (await timeout clock polls) :=
  exists_endedAt _ timeout clock.tail polls

theorem await_resumes (timeout : Word) (clock : List Clock.Reading)
    (polls : List (Option Pid)) :
    (await timeout clock polls).resumes =
      if (await timeout clock polls).tracer = none then 1 else 0 := by
  rcases exists_endedAt_await timeout clock polls with ⟨k, h⟩
  exact h.resumes_eq

theorem await_congr {timeout : Word} {clock readings : List Clock.Reading}
    {polls answers : List (Option Pid)} {k : Nat}
    (hlast : LastPoll (Clock.stamp (clock.headD none)) timeout clock.tail polls k)
    (hclock : forall j, j ≤ k + 1 -> readings.getD j none = clock.getD j none)
    (hpolls : forall j, j ≤ k -> answerAt answers j = answerAt polls j) :
    await timeout readings answers = await timeout clock polls := by
  have hstart : readings.headD none = clock.headD none := by
    rw [headD_eq_getD, headD_eq_getD]
    exact hclock 0 (Nat.zero_le _)
  have helapsed : forall j, j ≤ k ->
      elapsedAt (Clock.stamp (clock.headD none)) readings.tail j =
        elapsedAt (Clock.stamp (clock.headD none)) clock.tail j := by
    intro j hj
    rw [← elapsedAt_succ, ← elapsedAt_succ, elapsedAt, elapsedAt,
      hclock (j + 1) (Nat.succ_le_succ hj)]
  rcases exists_endedAt_await timeout clock polls with ⟨i, hi⟩
  rcases exists_endedAt_await timeout readings answers with ⟨i', hi'⟩
  cases hi.last.unique hlast
  rw [hstart] at hi'
  exact hi'.unique (hi.congr helapsed hpolls)

section

variable (timeout : Word) (clock : List Clock.Reading) (polls : List (Option Pid))

/-- A wait ends with its last poll, and nothing behind that poll matters to it.  If the poll
finds a tracer, the process is not resumed, however late it is; otherwise it is resumed
once, and no poll has found a tracer.  One thing is told. -/
theorem await_ends_with_last_poll :
    exists k, LastPoll (Clock.stamp (clock.headD none)) timeout clock.tail polls k ∧
      (await timeout clock polls).polls = k + 1 ∧
      (forall tracer, tracer ≠ 0 -> answerAt polls k = some tracer ->
        (await timeout clock polls).tracer = some tracer ∧
          (await timeout clock polls).resumes = 0) ∧
      (¬ TracerAt polls k ->
        (await timeout clock polls).tracer = none ∧
          (await timeout clock polls).resumes = 1 ∧
          forall j, j ≤ k -> ¬ TracerAt polls j) ∧
      (exists n, (await timeout clock polls).notices = [n] ∧
        forall inSeconds, (n.record inSeconds).level = .info) ∧
      forall readings answers,
        (forall j, j ≤ k + 1 -> readings.getD j none = clock.getD j none) ->
        (forall j, j ≤ k -> answerAt answers j = answerAt polls j) ->
        await timeout readings answers = await timeout clock polls := by
  rcases exists_endedAt_await timeout clock polls with ⟨k, h⟩
  refine ⟨k, h.last, h.polls_eq, ?_, ?_, h.exists_notice, ?_⟩
  · intro tracer hne hanswer
    rw [h.attached tracer hne hanswer]
    exact ⟨rfl, rfl⟩
  · intro hnone
    rw [h.timedOut hnone]
    exact ⟨rfl, rfl, fun j hj => h.last.not_tracerAt hnone hj⟩
  · intro readings answers hclock hpolls
    exact await_congr h.last hclock hpolls

end

theorem await_ends_with_last_poll_late :
    (await 5 [some 1, some 2, some 9] [some 0, some 77, none]).tracer = some 77 ∧
      (await 5 [some 1, some 2, some 9] [some 0, some 77, none]).resumes = 0 := by
  rcases await_ends_with_last_poll 5 [some 1, some 2, some 9] [some 0, some 77, none]
    with ⟨k, hlast, hpolls, hattached, _⟩
  cases (show k = 1 from Nat.succ.inj hpolls.symm)
  exact hattached 77 (by decide) rfl

end Debugger
end EntryStop
