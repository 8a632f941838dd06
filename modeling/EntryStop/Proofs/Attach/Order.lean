import EntryStop.Proofs.Attach.Course

/-!
# The order of calls and stages

Whatever the child does, a run follows the protocol as far as it comes.  If it ends with
the trap in the child, one attempt to take the trap out follows.
-/

namespace EntryStop

def Call.isWrite : Call -> Bool
  | writeWord .. => true
  | _ => false

namespace Attach

/-- Calls that follow the protocol: a part of it up to the trap, with the write of the
trap refused if it is reached, or a part with the trap in and one write that takes the
trap out again. -/
structure Follows (arch : Arch) (c : Child) (e : Address) (w : Word) (k : Nat)
    (calls : List Call) : Prop where
  entry : 3 < k -> c.entry = .ok e
  word : 4 < k -> c.memory.get? e = some w
  calls :
    k ≤ 5 ∧ (k = 5 -> c.refusals.writeWord.head ≠ none) ∧
        calls = (protocol arch e w c.pointer).take k ∨
      5 ≤ k ∧ k ≤ 8 ∧ c.refusals.writeWord.head = none ∧
        calls = (protocol arch e w c.pointer).take k ++ [.writeWord e w]

section

variable {arch : Arch} {c : Child} {h : Hurdle} {v : View}

theorem follows_arrived (hclear : forall g : Hurdle, g.Clear c) :
    Follows arch c c.entryAddress c.entryWord 8 (arrived arch c).actions where
  entry _ := hclear .entry
  word _ := (hclear .word).right
  calls := Or.inr ⟨by decide, by decide, hclear .trap, rfl⟩

theorem Halted.follows (hv : Halted arch c h v) :
    Follows arch c c.entryAddress c.entryWord h.calls v.actions where
  entry hcalls := hv.passed .entry (Hurdle.entry_before_of_calls hcalls)
  word hcalls := (hv.passed .word (Hurdle.word_before_of_calls hcalls)).right
  calls := by
    cases htrap : h.trapIn with
    | false =>
        rcases Hurdle.calls_of_no_trap htrap with ⟨hle, hfive⟩
        refine Or.inl ⟨hle, fun heq hnone => ?_, ?_⟩
        · have hh := hfive heq
          subst hh
          exact hv.notClear hnone
        · rw [hv.actions, htrap, if_neg (by decide), List.append_nil]
          rfl
    | true =>
        rcases Hurdle.calls_of_trapIn htrap with ⟨hge, hle⟩
        refine Or.inr ⟨hge, hle, hv.passed .trap (Hurdle.trap_before_of_trapIn htrap), ?_⟩
        rw [hv.actions, htrap, if_pos rfl]
        rfl

theorem Follows.count_cont {e : Address} {w : Word} {k : Nat} {calls : List Call}
    (hc : Follows arch c e w k calls) : calls.count Call.cont ≤ 2 := by
  have hprotocol : (protocol arch e w c.pointer).count Call.cont = 2 := rfl
  have htake : ((protocol arch e w c.pointer).take k).count Call.cont ≤ 2 := by
    rw [← hprotocol]
    exact (List.take_sublist k _).count_le Call.cont
  rcases hc.calls with ⟨_, _, hcalls⟩ | ⟨_, _, _, hcalls⟩
  · rw [hcalls]
    exact htake
  · rw [hcalls, List.count_append]
    exact htake

theorem Follows.writes {e : Address} {w : Word} {k : Nat} {calls : List Call}
    (hc : Follows arch c e w k calls) :
    calls.filter Call.isWrite =
      if k < 5 then []
      else if c.refusals.writeWord.head = none then
        [.writeWord e (arch.patch w), .writeWord e w]
      else [.writeWord e (arch.patch w)] := by
  -- The trap is the fifth call, and no call between it and the ninth one writes.
  rcases hc.calls with ⟨hle, hrefused, hcalls⟩ | ⟨hge, hle, hgranted, hcalls⟩
  · rw [hcalls]
    rcases Nat.lt_or_eq_of_le hle with hlt | heq
    · rw [if_pos hlt]
      have hk : k = 0 ∨ k = 1 ∨ k = 2 ∨ k = 3 ∨ k = 4 := by omega
      rcases hk with rfl | rfl | rfl | rfl | rfl <;> rfl
    · rw [if_neg (by omega), if_neg (hrefused heq), heq]
      rfl
  · rw [hcalls, if_neg (by omega), if_pos hgranted]
    have hk : k = 5 ∨ k = 6 ∨ k = 7 ∨ k = 8 := by omega
    rcases hk with rfl | rfl | rfl | rfl <;> rfl

theorem Halted.actions_of_no_initialStop (hv : Halted arch c h v)
    (hstopped : c.initialStop.stopped = false) : v.actions = [] := by
  have hh : h = .initialStop :=
    hv.hurdle_eq (fun hclear => nomatch hclear.left.symm.trans hstopped) (Nat.zero_le _)
  subst hh
  exact hv.actions

theorem Halted.actions_of_no_execStop (hv : Halted arch c h v) (hwaits : 1 < h.waits)
    (hstopped : c.execStop.stopped = false) : v.actions = [.traceExec, .cont] := by
  have hh : h = .execStop :=
    hv.hurdle_eq (g := .execStop) (fun hclear => nomatch hclear.symm.trans hstopped)
      (Hurdle.execStop_le_of_waits hwaits)
  subst hh
  exact hv.actions

end

/-!
## How a run leaves its records
-/

section

variable (arch : Arch) (logging : Bool) (c : Child)

theorem follows_left :
    exists e w k, Follows arch c e w k (left (attach arch logging c)).actions := by
  rcases attach_cases arch logging c with ⟨_, hview, hclear⟩ | ⟨f, _, hhalted⟩
  · have hactions :
        (left (attach arch logging c)).actions = (arrived arch c).actions :=
      congrArg (fun v : View => v.actions) hview
    rw [hactions]
    exact ⟨_, _, 8, follows_arrived hclear⟩
  · exact ⟨_, _, _, hhalted.follows⟩

theorem sightings_left :
    (left (attach arch logging c)).sightings <+: c.sightings := by
  rcases attach_cases arch logging c with ⟨_, hview, _⟩ | ⟨f, _, hhalted⟩
  · have hsightings : (left (attach arch logging c)).sightings = c.sightings :=
      congrArg (fun v : View => v.sightings) hview
    exact ⟨[], by rw [hsightings, List.append_nil]⟩
  · have hsightings :
        (left (attach arch logging c)).sightings = c.sightings.take _ :=
      hhalted.sightings
    rw [hsightings]
    exact List.take_prefix _ _

theorem sighting_left {n : Nat} {s : Sighting}
    (hs : (left (attach arch logging c)).sightings[n]? = some s) :
    c.sightings[n]? = some s := by
  rcases sightings_left arch logging c with ⟨rest, hrest⟩
  rcases List.getElem?_eq_some_iff.mp hs with ⟨hn, _⟩
  rw [← hrest, List.getElem?_append_left hn, hs]

theorem stages_left : (left (attach arch logging c)).stages <+: Stage.all := by
  rcases attach_cases arch logging c with ⟨_, hview, _⟩ | ⟨f, _, hhalted⟩
  · have hstages : (left (attach arch logging c)).stages = Stage.all :=
      congrArg (fun v : View => v.stages) hview
    exact ⟨[], by rw [hstages, List.append_nil]⟩
  · have hstages : (left (attach arch logging c)).stages = Stage.all.take _ :=
      hhalted.stages
    rw [hstages]
    exact List.take_prefix _ _

theorem stage_left_eq_restored_iff :
    (left (attach arch logging c)).stage = .restored ↔
      exists e t, attach arch logging c = .ok e t := by
  rcases attach_cases arch logging c with ⟨hattach, hview, _⟩ | ⟨f, hattach, hhalted⟩
  · have hstages : (left (attach arch logging c)).stages = Stage.all :=
      congrArg (fun v : View => v.stages) hview
    refine ⟨fun _ => ⟨_, _, hattach⟩, fun _ => ?_⟩
    unfold Tracee.stage
    rw [hstages]
    rfl
  · have hstages : (left (attach arch logging c)).stages = Stage.all.take _ :=
      hhalted.stages
    constructor
    · intro hrestored
      unfold Tracee.stage at hrestored
      rw [hstages] at hrestored
      generalize hurdleOf f = h at hrestored
      cases h <;> cases hrestored
    · rintro ⟨e, t, hok⟩
      cases hattach.symm.trans hok

theorem actions_left_of_no_initialStop (hstopped : c.initialStop.stopped = false) :
    (left (attach arch logging c)).actions = [] := by
  rcases attach_cases arch logging c with ⟨_, _, hclear⟩ | ⟨f, _, hhalted⟩
  · exact nomatch (hclear .initialStop).left.symm.trans hstopped
  · exact hhalted.actions_of_no_initialStop hstopped

theorem eq_protocol_of_ok {e : Address} {t : Tracee} (hok : attach arch logging c = .ok e t) :
    exists w, c.memory.get? e = some w ∧ t.actions = protocol arch e w c.pointer ∧
      t.sightings = c.sightings := by
  rcases attach_cases arch logging c with ⟨hattach, hview, hclear⟩ | ⟨f, hattach, _⟩
  · rw [hok] at hattach hview
    injection hattach with he _
    subst he
    exact ⟨c.entryWord, (hclear .word).right, congrArg (fun v : View => v.actions) hview,
      congrArg (fun v : View => v.sightings) hview⟩
  · cases hok.symm.trans hattach

theorem actions_left_of_no_execStop
    (hwaits : 1 < (left (attach arch logging c)).sightings.length)
    (hstopped : c.execStop.stopped = false) :
    (left (attach arch logging c)).actions = [.traceExec, .cont] := by
  rcases attach_cases arch logging c with ⟨_, _, hclear⟩ | ⟨f, _, hhalted⟩
  · exact nomatch (hclear .execStop).symm.trans hstopped
  · exact hhalted.actions_of_no_execStop (hhalted.lt_waits hwaits) hstopped

end

/-!
## The order of a run
-/

/-- Every run follows the protocol as far as it comes, in its calls and in its stages.
It writes the word at the entry back exactly if the trap has got in, and then once.  It
makes no call if the first wait sees no stop, the first two calls if the second one sees
none, and it is at the last stage exactly if it has succeeded.  It then has followed the
protocol to its end and has seen what the child shows to all three waits. -/
theorem attach_follows (arch : Arch) (logging : Bool) (c : Child) :
    (exists e w k, Follows arch c e w k (left (attach arch logging c)).actions ∧
      (left (attach arch logging c)).actions.filter Call.isWrite =
        if k < 5 then []
        else if c.refusals.writeWord.head = none then
          [.writeWord e (arch.patch w), .writeWord e w]
        else [.writeWord e (arch.patch w)]) ∧
    (left (attach arch logging c)).actions.count Call.cont ≤ 2 ∧
    (left (attach arch logging c)).sightings <+: c.sightings ∧
    (forall s, (left (attach arch logging c)).sightings[0]? = some s ->
      s.stopped = false -> (left (attach arch logging c)).actions = []) ∧
    (forall s, (left (attach arch logging c)).sightings[1]? = some s ->
      s.stopped = false ->
      (left (attach arch logging c)).actions = [.traceExec, .cont]) ∧
    (left (attach arch logging c)).stages <+: Stage.all ∧
    ((left (attach arch logging c)).stage = .restored ↔
      exists e t, attach arch logging c = .ok e t) ∧
    (c.initialStop.stopped = false -> (left (attach arch logging c)).actions = []) ∧
    (forall e t, attach arch logging c = .ok e t ->
      exists w, c.memory.get? e = some w ∧ t.actions = protocol arch e w c.pointer ∧
        t.sightings = c.sightings) := by
  rcases follows_left arch logging c with ⟨e, w, k, hfollows⟩
  refine ⟨⟨e, w, k, hfollows, hfollows.writes⟩, hfollows.count_cont,
    sightings_left arch logging c, ?_, ?_, stages_left arch logging c,
    stage_left_eq_restored_iff arch logging c, actions_left_of_no_initialStop arch logging c,
    fun _ _ hok => eq_protocol_of_ok arch logging c hok⟩
  · intro s hs hstopped
    have hseen : c.sightings[0]? = some s := sighting_left arch logging c hs
    cases hseen
    exact actions_left_of_no_initialStop arch logging c hstopped
  · intro s hs hstopped
    have hseen : c.sightings[1]? = some s := sighting_left arch logging c hs
    cases hseen
    have hwaits := (List.getElem?_eq_some_iff.mp hs).choose
    exact actions_left_of_no_execStop arch logging c hwaits hstopped

theorem attach_follows_trapped :
    exists t, attach .x86_64 false trapped = .ok 0x401000 t ∧
      t.actions = protocol .x86_64 0x401000 0x4855fa1e0f6690c3 0x401001 ∧
      t.sightings.map (·.stopped) = [true, true, true] ∧ t.stage = .restored := by
  have hok : attach .x86_64 false trapped =
      .ok 0x401000 (left (attach .x86_64 false trapped)) := rfl
  rcases attach_follows .x86_64 false trapped with ⟨_, _, _, _, _, _, hrestored, _, hend⟩
  rcases hend _ _ hok with ⟨w, hw, hactions, hsightings⟩
  cases hw
  exact ⟨_, hok, hactions, congrArg (List.map (·.stopped)) hsightings,
    hrestored.mpr ⟨_, _, hok⟩⟩

end Attach
end EntryStop
