import EntryStop.Proofs.Machine.Clock
import EntryStop.Tracing.Wait
import Mathlib.Data.Nat.Find

/-!
# The answers that a wait takes

The rounds of a wait are numbered from zero.  A quiet round takes one answer of each
probe and one reading of the clock, so the answers of a round stand under its number as
long as the rounds before it are quiet.  A wait ends in the first round in which a probe
answers or at whose end the time is over, and leaves all later answers to the next wait.
-/

namespace EntryStop

def Waited.after (w : Waited) (taken : List Probe) : Waited :=
  { w with taken := taken ++ w.taken }

theorem Waited.after_append (w : Waited) (first second : List Probe) :
    w.after (first ++ second) = (w.after second).after first := by
  simp only [after, List.append_assoc]

namespace Outlook

/-!
## Numbered answers
-/

def statusAt (o : Outlook) (k : Nat) : Option Status :=
  o.statuses.getD k none

def pointerAt (o : Outlook) (k : Nat) : Option Address :=
  o.pointers.getD k none

def statusTaken (o : Outlook) (k : Nat) : List Probe :=
  if k < o.statuses.length then [.status] else []

def pointerTaken (o : Outlook) (k : Nat) : List Probe :=
  if k < o.pointers.length then [.pointer] else []

def roundTaken (o : Outlook) (k : Nat) : List Probe :=
  o.statusTaken k ++ o.pointerTaken k

def takenBefore (o : Outlook) (k : Nat) : List Probe :=
  (List.range k).flatMap o.roundTaken

def Quiet (o : Outlook) (k : Nat) : Prop :=
  o.statusAt k = none ∧ o.pointerAt k = none

theorem answers_cases {α : Type} (answers : List (Option α)) (k : Nat) :
    (k < answers.length ∧ answers.drop k = answers.getD k none :: answers.drop (k + 1)) ∨
      (answers.length ≤ k ∧ answers.drop k = [] ∧ answers.drop (k + 1) = [] ∧
        answers.getD k none = none) := by
  rcases Nat.lt_or_ge k answers.length with hlt | hge
  · refine Or.inl ⟨hlt, ?_⟩
    rw [List.drop_eq_getElem_cons hlt, List.getD_eq_getElem?_getD,
      List.getElem?_eq_getElem hlt, Option.getD_some]
  · refine Or.inr ⟨hge, List.drop_eq_nil_of_le hge,
      List.drop_eq_nil_of_le (Nat.le_succ_of_le hge), ?_⟩
    rw [List.getD_eq_getElem?_getD, List.getElem?_eq_none hge, Option.getD_none]

theorem statusTaken_of_statusAt {o : Outlook} {k : Nat} {s : Status}
    (h : o.statusAt k = some s) : o.statusTaken k = [.status] := by
  rcases answers_cases o.statuses k with ⟨hlt, _⟩ | ⟨_, _, _, hnone⟩
  · exact if_pos hlt
  · cases h.symm.trans hnone

theorem takenBefore_succ (o : Outlook) (k : Nat) :
    o.takenBefore (k + 1) = o.takenBefore k ++ o.roundTaken k := by
  simp only [takenBefore, List.range_succ, List.flatMap_append, List.flatMap_singleton]

/-!
## One round
-/

/-- The outlook behind `i` status probes and `j` pointer probes.  Its clock is that of the
whole wait. -/
def behind (o : Outlook) (i j : Nat) : Outlook :=
  { o with statuses := o.statuses.drop i, pointers := o.pointers.drop j }

theorem probeStatus_behind (o : Outlook) (i j : Nat) :
    (o.behind i j).probeStatus = (o.statusAt i, o.statusTaken i, o.behind (i + 1) j) := by
  rcases answers_cases o.statuses i with ⟨hlt, hdrop⟩ | ⟨hge, hdrop, hnext, hnone⟩
  · simp only [behind, probeStatus, hdrop, statusAt, statusTaken, if_pos hlt]
  · simp only [behind, probeStatus, hdrop, hnext, statusAt, hnone, statusTaken,
      if_neg (Nat.not_lt_of_le hge)]

theorem probePointer_behind (o : Outlook) (i j : Nat) :
    (o.behind i j).probePointer =
      (o.pointerAt j, o.pointerTaken j, o.behind i (j + 1)) := by
  rcases answers_cases o.pointers j with ⟨hlt, hdrop⟩ | ⟨hge, hdrop, hnext, hnone⟩
  · simp only [behind, probePointer, hdrop, pointerAt, pointerTaken, if_pos hlt]
  · simp only [behind, probePointer, hdrop, hnext, pointerAt, hnone, pointerTaken,
      if_neg (Nat.not_lt_of_le hge)]

theorem round_of_statusAt {o : Outlook} {k : Nat} {s : Status}
    (h : o.statusAt k = some s) :
    (o.behind k k).round = (some ⟨s.isStop, some s⟩, [.status], o.behind (k + 1) k) := by
  rw [round, probeStatus_behind, h, statusTaken_of_statusAt h]

theorem round_of_pointerAt {o : Outlook} {k : Nat} {p : Address}
    (hstatus : o.statusAt k = none) (hpointer : o.pointerAt k = some p) :
    (o.behind k k).round =
      (some ⟨true, o.statusAt (k + 1)⟩, o.roundTaken k ++ o.statusTaken (k + 1),
        o.behind (k + 2) (k + 1)) := by
  rw [round, probeStatus_behind, hstatus]
  dsimp only
  rw [probePointer_behind, hpointer]
  dsimp only
  rw [probeStatus_behind]
  rfl

theorem round_of_quiet {o : Outlook} {k : Nat} (h : o.Quiet k) :
    (o.behind k k).round = (none, o.roundTaken k, o.behind (k + 1) (k + 1)) := by
  rw [round, probeStatus_behind, h.left]
  dsimp only
  rw [probePointer_behind, h.right]
  rfl

/-!
## The last round
-/

def start (o : Outlook) : Word :=
  Clock.stamp (o.clock.getD 0 none)

def OverAt (o : Outlook) (timeout : Word) (k : Nat) : Prop :=
  timeout < Clock.elapsed o.start (o.clock.getD (k + 1) none)

def EndsIn (o : Outlook) (timeout : Word) (k : Nat) : Prop :=
  ¬ o.Quiet k ∨ o.OverAt timeout k

structure LastRound (o : Outlook) (timeout : Word) (k : Nat) : Prop where
  ends : o.EndsIn timeout k
  goesOn : forall j, j < k -> ¬ o.EndsIn timeout j

/-- What a wait is that ends in the round `k`: what it has found, the answers it has
taken, and those it leaves. -/
structure Ended (o : Outlook) (timeout : Word) (k : Nat) (w : Waited) : Prop where
  last : o.LastRound timeout k
  /-- A status ends the wait without a look at the instruction pointer. -/
  status : forall s, o.statusAt k = some s ->
    w = ⟨⟨s.isStop, some s⟩, o.takenBefore k ++ [.status],
      ⟨o.statuses.drop (k + 1), o.pointers.drop k, o.clock.drop (k + 1)⟩⟩
  /-- A readable instruction pointer ends it with one more status probe. -/
  pointer : forall p, o.statusAt k = none -> o.pointerAt k = some p ->
    w = ⟨⟨true, o.statusAt (k + 1)⟩, o.takenBefore (k + 1) ++ o.statusTaken (k + 1),
      ⟨o.statuses.drop (k + 2), o.pointers.drop (k + 1), o.clock.drop (k + 1)⟩⟩
  /-- If the round is quiet, the time is over at its end. -/
  quiet : o.Quiet k ->
    o.OverAt timeout k ∧
      w = ⟨.nothing, o.takenBefore (k + 1),
        ⟨o.statuses.drop (k + 1), o.pointers.drop (k + 1), o.clock.drop (k + 2)⟩⟩

theorem not_endsIn_iff {o : Outlook} {timeout : Word} {k : Nat} :
    ¬ o.EndsIn timeout k ↔ o.Quiet k ∧ ¬ o.OverAt timeout k := by
  rw [EndsIn, not_or, Classical.not_not]

theorem poll_of_overAt {o : Outlook} {timeout : Word} {k : Nat} (hquiet : o.Quiet k)
    (hover : o.OverAt timeout k) :
    poll o.start timeout (o.clock.drop (k + 1)) (o.behind k k) =
      ⟨.nothing, o.roundTaken k,
        ⟨o.statuses.drop (k + 1), o.pointers.drop (k + 1), o.clock.drop (k + 2)⟩⟩ := by
  rcases answers_cases o.clock (k + 1) with ⟨_, hdrop⟩ | ⟨_, hdrop, hnext, _⟩
  · rw [OverAt] at hover
    rw [hdrop, poll_cons_of_round_none (round_of_quiet hquiet), if_pos hover]
    rfl
  · rw [hdrop, hnext, poll_nil_of_round_none (round_of_quiet hquiet)]
    rfl

section

variable {o : Outlook} {timeout : Word} (htimeout : timeout < Word.greatest)

include htimeout

theorem overAt_of_length_le {k : Nat} (h : o.clock.length ≤ k + 1) :
    o.OverAt timeout k := by
  rw [OverAt, List.getD_eq_getElem?_getD, List.getElem?_eq_none h]
  exact htimeout

theorem exists_lastRound : exists k, o.LastRound timeout k := by
  classical
  have hends : exists k, o.EndsIn timeout k :=
    ⟨o.clock.length, Or.inr (overAt_of_length_le htimeout (Nat.le_succ _))⟩
  exact ⟨Nat.find hends, Nat.find_spec hends, fun _ => Nat.find_min hends⟩

theorem poll_of_not_endsIn {k : Nat} (h : ¬ o.EndsIn timeout k) :
    poll o.start timeout (o.clock.drop (k + 1)) (o.behind k k) =
      (poll o.start timeout (o.clock.drop (k + 2)) (o.behind (k + 1) (k + 1))).after
        (o.roundTaken k) := by
  rcases not_endsIn_iff.mp h with ⟨hquiet, htime⟩
  rcases answers_cases o.clock (k + 1) with ⟨_, hdrop⟩ | ⟨hge, _⟩
  · rw [OverAt] at htime
    rw [hdrop, poll_cons_of_round_none (round_of_quiet hquiet), if_neg htime]
    rfl
  · exact absurd (overAt_of_length_le htimeout hge) htime

theorem wait_of_quiet_rounds {k : Nat} (h : forall j, j < k -> ¬ o.EndsIn timeout j) :
    o.wait timeout =
      (poll o.start timeout (o.clock.drop (k + 1)) (o.behind k k)).after
        (o.takenBefore k) := by
  -- The induction is on the rounds gone through and adds one at their end, so that the
  -- numbers stay those of the whole wait.
  induction k with
  | zero =>
      rcases o with ⟨statuses, pointers, _ | ⟨now, clock⟩⟩
      · rfl
      · rfl
  | succ k ih =>
      rw [ih fun j hj => h j (Nat.lt_succ_of_lt hj),
        poll_of_not_endsIn htimeout (h k (Nat.lt_succ_self k)), takenBefore_succ,
        Waited.after_append]

theorem ended_wait {k : Nat} (hlast : o.LastRound timeout k) :
    o.Ended timeout k (o.wait timeout) where
  last := hlast
  status s hstatus := by
    rw [wait_of_quiet_rounds htimeout hlast.goesOn,
      poll_of_round_some (round_of_statusAt hstatus)]
    rfl
  pointer p hstatus hpointer := by
    rw [wait_of_quiet_rounds htimeout hlast.goesOn,
      poll_of_round_some (round_of_pointerAt hstatus hpointer), takenBefore_succ,
      List.append_assoc]
    rfl
  quiet hquiet := by
    have hover : o.OverAt timeout k := hlast.ends.resolve_left fun h => h hquiet
    refine ⟨hover, ?_⟩
    rw [wait_of_quiet_rounds htimeout hlast.goesOn, poll_of_overAt hquiet hover,
      takenBefore_succ]
    rfl

end

theorem Ended.cases {o : Outlook} {timeout : Word} {k : Nat} {w : Waited}
    (h : o.Ended timeout k w) :
    (exists s, o.statusAt k = some s ∧ w.sighting = ⟨s.isStop, some s⟩) ∨
      (o.statusAt k = none ∧ (exists p, o.pointerAt k = some p) ∧
        w.sighting = ⟨true, o.statusAt (k + 1)⟩) ∨
      (o.Quiet k ∧ o.OverAt timeout k ∧ w.sighting = .nothing) := by
  cases hstatus : o.statusAt k with
  | some s => exact Or.inl ⟨s, rfl, congrArg Waited.sighting (h.status s hstatus)⟩
  | none =>
      cases hpointer : o.pointerAt k with
      | some p =>
          exact Or.inr (Or.inl ⟨rfl, ⟨p, rfl⟩,
            congrArg Waited.sighting (h.pointer p hstatus hpointer)⟩)
      | none =>
          have hquiet : o.Quiet k := ⟨hstatus, hpointer⟩
          rcases h.quiet hquiet with ⟨hover, hw⟩
          exact Or.inr (Or.inr ⟨hquiet, hover, congrArg Waited.sighting hw⟩)

/-!
## Waits of milliseconds
-/

theorem waitMillis_eq_ok_iff {o : Outlook} {ms : Word} {w : Waited} :
    o.waitMillis ms = .ok w ↔
      exists timeout, timeout.toNat = ms.toNat * 1000000 ∧ o.wait timeout = w := by
  rw [waitMillis]
  constructor
  · intro hok
    cases hmillis : Clock.millis ms with
    | error fault =>
        rw [hmillis] at hok
        cases hok
    | ok timeout =>
        rw [hmillis] at hok
        exact ⟨timeout, Clock.millis_eq_ok_iff.mp hmillis, Except.ok.inj hok⟩
  · rintro ⟨timeout, hvalue, rfl⟩
    rw [Clock.millis_eq_ok_iff.mpr hvalue]
    rfl

/-- A wait of milliseconds ends in the first round in which a probe answers or at whose
end the time is over.  It finds nothing only if that round is quiet and the time is over,
and it finds a stop only if a status tells of one or the instruction pointer can be
read. -/
theorem waitMillis_ends_in_last_round (o : Outlook) {ms : Word}
    (hfits : ms.toNat * 1000000 < UInt64.size) :
    exists timeout k w, timeout.toNat = ms.toNat * 1000000 ∧ o.waitMillis ms = .ok w ∧
      o.Ended timeout k w ∧
      (w.sighting = .nothing -> o.Quiet k ∧ o.OverAt timeout k) ∧
      (w.sighting.stopped = true ->
        (exists s, o.statusAt k = some s ∧ s.isStop = true) ∨
          exists p, o.pointerAt k = some p) := by
  rcases Clock.exists_millis hfits with ⟨timeout, hmillis⟩
  have hvalue := Clock.millis_eq_ok_iff.mp hmillis
  have htimeout := Clock.lt_greatest_of_millis hvalue
  rcases exists_lastRound (o := o) htimeout with ⟨k, hlast⟩
  have hended := ended_wait htimeout hlast
  refine ⟨timeout, k, _, hvalue, waitMillis_eq_ok_iff.mpr ⟨timeout, hvalue, rfl⟩, hended,
    ?_, ?_⟩
  · intro hnothing
    rcases hended.cases with ⟨s, _, hs⟩ | ⟨_, _, hs⟩ | ⟨hquiet, hover, _⟩
    · cases congrArg Sighting.status (hs.symm.trans hnothing)
    · cases congrArg Sighting.stopped (hs.symm.trans hnothing)
    · exact ⟨hquiet, hover⟩
  · intro hstopped
    rcases hended.cases with ⟨s, hstatus, hs⟩ | ⟨_, hpointer, _⟩ | ⟨_, _, hs⟩
    · rw [hs] at hstopped
      exact Or.inl ⟨s, hstatus, hstopped⟩
    · exact Or.inr hpointer
    · rw [hs] at hstopped
      cases hstopped

def seenByPointer : Outlook where
  statuses := [none, none, none, some (.stopped 1234 .stop), some (.exited 1234 0)]
  pointers := [none, none, some 0x401000, none]
  clock := [some 1000, some 61000, some 121000, some 181000]

theorem waitMillis_ends_in_last_round_seenByPointer :
    (1 : Word).toNat * 1000000 < UInt64.size ∧
      exists timeout k w, timeout.toNat = (1 : Word).toNat * 1000000 ∧
        seenByPointer.waitMillis 1 = .ok w ∧ seenByPointer.Ended timeout k w ∧
        (w.sighting = .nothing ->
          seenByPointer.Quiet k ∧ seenByPointer.OverAt timeout k) ∧
        (w.sighting.stopped = true ->
          (exists s, seenByPointer.statusAt k = some s ∧ s.isStop = true) ∨
            exists p, seenByPointer.pointerAt k = some p) :=
  ⟨by decide, seenByPointer.waitMillis_ends_in_last_round (by decide)⟩

end Outlook
end EntryStop
