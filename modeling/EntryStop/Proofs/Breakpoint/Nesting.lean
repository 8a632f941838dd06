import EntryStop.Proofs.Breakpoint.Steps

/-!
# Breakpoints over breakpoints

Several breakpoints at one address lie over each other: each has saved the word that it
found there, which may be the patched word of another one.  As long as they are taken out
from the top, memory differs from what it was only under breakpoints that are still in.
-/

namespace EntryStop
namespace Breakpoint

/-!
## Breakpoints at an address
-/

def liveAt (slots : Slots) (a : Address) : List Breakpoint :=
  (slots.filterMap id).filter fun bp => bp.addr = a

theorem liveAt_append (slots rest : Slots) (a : Address) :
    liveAt (slots ++ rest) a = liveAt slots a ++ liveAt rest a := by
  simp only [liveAt, List.filterMap_append, List.filter_append]

theorem liveAt_none_cons (slots : Slots) (a : Address) :
    liveAt (none :: slots) a = liveAt slots a := rfl

theorem liveAt_some_cons_self (bp : Breakpoint) (slots : Slots) :
    liveAt (some bp :: slots) bp.addr = bp :: liveAt slots bp.addr := by
  simp [liveAt]

theorem liveAt_some_cons_of_ne {bp : Breakpoint} {a : Address} (h : bp.addr ≠ a)
    (slots : Slots) : liveAt (some bp :: slots) a = liveAt slots a := by
  simp [liveAt, h]

theorem exists_live_of_liveAt_ne_nil {slots : Slots} {a : Address}
    (h : liveAt slots a ≠ []) : exists bp, some bp ∈ slots ∧ bp.addr = a := by
  rcases List.exists_mem_of_ne_nil _ h with ⟨bp, hbp⟩
  rw [liveAt, List.mem_filter, List.mem_filterMap] at hbp
  rcases hbp with ⟨⟨slot, hslot, heq⟩, haddr⟩
  exact ⟨bp, heq ▸ hslot, of_decide_eq_true haddr⟩

/-- No breakpoint that was put in later at the same address is still in. -/
def Topmost (slots : Slots) (slot : Nat) : Prop :=
  forall bp, bp ∈ slots[slot]?.join -> liveAt (slots.drop (slot + 1)) bp.addr = []

section

variable {slots : Slots} {slot : Nat} {bp : Breakpoint}

theorem eq_take_append_drop_of_join (h : slots[slot]?.join = some bp) :
    slots = slots.take slot ++ some bp :: slots.drop (slot + 1) ∧
      slots.set slot none = slots.take slot ++ none :: slots.drop (slot + 1) := by
  have hslot : slots[slot]? = some (some bp) := Option.join_eq_some_iff.mp h
  rcases List.getElem?_eq_some_iff.mp hslot with ⟨hlt, hget⟩
  constructor
  · rw [← hget, List.getElem_cons_drop, List.take_append_drop]
  · rw [List.set_eq_take_append_cons_drop, if_pos hlt]

theorem liveAt_eq_concat_of_topmost (h : slots[slot]?.join = some bp)
    (htop : Topmost slots slot) :
    liveAt slots bp.addr = liveAt (slots.set slot none) bp.addr ++ [bp] := by
  rcases eq_take_append_drop_of_join h with ⟨hslots, hset⟩
  rw [hset, hslots, liveAt_append, liveAt_append, liveAt_some_cons_self,
    liveAt_none_cons, ← hslots, htop bp h, List.append_nil]

theorem liveAt_set_of_ne (h : slots[slot]?.join = some bp) {a : Address}
    (ha : bp.addr ≠ a) : liveAt (slots.set slot none) a = liveAt slots a := by
  rcases eq_take_append_drop_of_join h with ⟨hslots, hset⟩
  rw [hset, hslots, liveAt_append, liveAt_append, liveAt_some_cons_of_ne ha,
    liveAt_none_cons, ← hslots]

end

/-!
## Words over words
-/

/-- What is at an address with breakpoints over each other: the lowest one has saved the
word at the bottom, each other one the patched word below it, and the patched word of the
last one is on top. -/
def Layers : (bottom : Option Word) -> List Breakpoint -> (top : Option Word) -> Prop
  | bottom, [], top => top = bottom
  | bottom, bp :: above, top => bottom = some bp.saved ∧ Layers (some bp.patched) above top

theorem layers_concat_iff {bottom top : Option Word} {bps : List Breakpoint}
    {bp : Breakpoint} :
    Layers bottom (bps ++ [bp]) top ↔
      Layers bottom bps (some bp.saved) ∧ top = some bp.patched := by
  induction bps generalizing bottom with
  | nil => exact and_congr_left' eq_comm
  | cons head bps ih =>
      constructor
      · rintro ⟨hsaved, habove⟩
        rcases ih.mp habove with ⟨hbps, htop⟩
        exact ⟨⟨hsaved, hbps⟩, htop⟩
      · rintro ⟨⟨hsaved, hbps⟩, htop⟩
        exact ⟨hsaved, ih.mpr ⟨hbps, htop⟩⟩

def Layered (start : Memory) (slots : Slots) (now : Memory) : Prop :=
  forall a, Layers (start.get? a) (liveAt slots a) (now.get? a)

section

variable {start now : Memory} {slots : Slots}

theorem layered_nil (start : Memory) : Layered start [] start := fun _ => rfl

theorem Layered.get?_eq (h : Layered start slots now) {a : Address}
    (hlive : liveAt slots a = []) : now.get? a = start.get? a := by
  have ha := h a
  rw [hlive] at ha
  exact ha

theorem Layered.get?_eq_patched (h : Layered start slots now) {a : Address}
    {bp : Breakpoint} (hlast : (liveAt slots a).getLast? = some bp) :
    now.get? a = some bp.patched := by
  have ha := h a
  rcases List.getLast?_eq_some_iff.mp hlast with ⟨below, hlive⟩
  rw [hlive, layers_concat_iff] at ha
  exact ha.right

theorem Layered.inject (h : Layered start slots now) {bp : Breakpoint}
    (hword : now.get? bp.addr = some bp.saved) :
    Layered start (slots ++ [some bp]) (now.set bp.addr bp.patched) := by
  intro a
  rw [liveAt_append]
  by_cases ha : bp.addr = a
  · subst ha
    rw [liveAt_some_cons_self, Memory.get?_set_self]
    refine layers_concat_iff.mpr ⟨?_, rfl⟩
    rw [← hword]
    exact h bp.addr
  · have hnone : liveAt [] a = [] := rfl
    rw [liveAt_some_cons_of_ne ha, Memory.get?_set_of_ne (Ne.symm ha), hnone,
      List.append_nil]
    exact h a

theorem Layered.restore (h : Layered start slots now) {slot : Nat} {bp : Breakpoint}
    (hslot : slots[slot]?.join = some bp) (htop : Topmost slots slot) :
    Layered start (slots.set slot none) (now.set bp.addr bp.saved) := by
  intro a
  have ha := h a
  by_cases haddr : bp.addr = a
  · subst haddr
    rw [liveAt_eq_concat_of_topmost hslot htop, layers_concat_iff] at ha
    rw [Memory.get?_set_self]
    exact ha.left
  · rw [liveAt_set_of_ne hslot haddr, Memory.get?_set_of_ne (Ne.symm haddr)]
    exact ha

end

/-!
## Orderly runs
-/

/-- A step that puts a breakpoint in, with whatever success, or one that takes out the
topmost breakpoint at its address and succeeds. -/
def Step.Orderly (arch : Arch) (slots : Slots) (t : Tracee) : Step -> Prop
  | inject _ => True
  | restore slot =>
      Topmost slots slot ∧
        (((restore slot).run arch slots t).1 = .restored ∨
          ((restore slot).run arch slots t).1 = .emptySlot)
  | poke _ _ => False

def OrderlyRun (arch : Arch) (slots : Slots) (t : Tracee) : List Step -> Prop
  | [] => True
  | step :: steps =>
      step.Orderly arch slots t ∧
        OrderlyRun arch (step.run arch slots t).2.1 (step.run arch slots t).2.2 steps

instance (slots : Slots) (slot : Nat) : Decidable (Topmost slots slot) :=
  inferInstanceAs
    (Decidable (forall bp, bp ∈ slots[slot]?.join ->
      liveAt (slots.drop (slot + 1)) bp.addr = []))

instance (arch : Arch) (slots : Slots) (t : Tracee) :
    (step : Step) -> Decidable (step.Orderly arch slots t)
  | .inject _ => .isTrue trivial
  | .restore _ => inferInstanceAs (Decidable (_ ∧ (_ ∨ _)))
  | .poke _ _ => .isFalse id

instance decidableOrderlyRun (arch : Arch) (slots : Slots) (t : Tracee) :
    (steps : List Step) -> Decidable (OrderlyRun arch slots t steps)
  | [] => .isTrue trivial
  | step :: steps =>
      let _ := decidableOrderlyRun arch (step.run arch slots t).2.1
        (step.run arch slots t).2.2 steps
      inferInstanceAs (Decidable (_ ∧ _))

section

variable {arch : Arch} {start : Memory} {slots : Slots} {t : Tracee}

theorem Layered.step (h : Layered start slots t.memory) {step : Step}
    (hstep : step.Orderly arch slots t) :
    Layered start (step.run arch slots t).2.1 (step.run arch slots t).2.2.memory := by
  cases step with
  | inject addr =>
      rcases run_inject_cases arch slots t addr with
        ⟨word, t', hword, hrun, hmemory⟩ | ⟨e, t', hrun, hmemory⟩
      · simp only [hrun, hmemory]
        exact h.inject hword
      · simp only [hrun, hmemory]
        exact h
  | restore slot =>
      rcases hstep with ⟨htop, heffect⟩
      cases hslot : slots[slot]?.join with
      | none =>
          rw [run_restore_of_empty arch t hslot]
          exact h
      | some bp =>
          rcases run_restore_cases arch t hslot with
            ⟨t', hrun, hmemory⟩ | ⟨e, t', hrun, _⟩
          · simp only [hrun, hmemory]
            exact h.restore hslot htop
          · -- A refused restoration is not orderly: its slot is empty, its word still in.
            rw [hrun] at heffect
            rcases heffect with heffect | heffect
            · cases heffect
            · cases heffect
  | poke addr word => exact hstep.elim

theorem Layered.run (h : Layered start slots t.memory) {steps : List Step}
    (hsteps : OrderlyRun arch slots t steps) :
    Layered start (afterSteps arch slots t steps).1
      (afterSteps arch slots t steps).2.memory := by
  induction steps generalizing slots t with
  | nil => exact h
  | cons step steps ih => exact ih (h.step hsteps.left) hsteps.right

theorem OrderlyRun.take {steps : List Step} (h : OrderlyRun arch slots t steps) (k : Nat) :
    OrderlyRun arch slots t (steps.take k) := by
  induction k generalizing slots t steps with
  | zero => exact trivial
  | succ k ih =>
      cases steps with
      | nil => exact trivial
      | cons step steps => exact ⟨h.left, ih h.right⟩

end

/-- Memory after each step of an orderly run, whatever reads and writes of the injections
have failed.  It is what it was at the start once all breakpoints have been taken out, and
until then it differs only at addresses with a breakpoint, where the last one's patched
word stands.  An injection that fails changes nothing. -/
theorem memory_of_orderly_run {arch : Arch} {t : Tracee} {steps : List Step}
    (h : OrderlyRun arch [] t steps) {k : Nat} {effect : Effect} {u : Tracee}
    (hstep : (runSteps arch [] t steps)[k]? = some (effect, u)) {slots : Slots}
    (hslots : (afterSteps arch [] t (steps.take (k + 1))).1 = slots) :
    ((forall bp, some bp ∉ slots) -> forall a, u.memory.get? a = t.memory.get? a) ∧
    (forall a, u.memory.get? a ≠ t.memory.get? a ->
      exists bp, some bp ∈ slots ∧ bp.addr = a) ∧
    (forall a bp, (liveAt slots a).getLast? = some bp ->
      u.memory.get? a = some bp.patched) ∧
    (forall addr e, steps[k]? = some (.inject addr) -> effect = .failed e ->
      slots = (afterSteps arch [] t (steps.take k)).1 ∧
        u.memory = (afterSteps arch [] t (steps.take k)).2.memory) := by
  rw [getElem?_runSteps] at hstep
  rcases Option.map_eq_some_iff.mp hstep with ⟨step, hget, hrun⟩
  cases hrun
  -- Up to here the run is orderly too, so the words lie over each other at every address.
  have hlayered := (layered_nil t.memory).run (h.take (k + 1))
  rw [hslots] at hlayered
  have hdiffers (a : Address)
      (ha : (afterSteps arch [] t (steps.take (k + 1))).2.memory.get? a ≠
        t.memory.get? a) : exists bp, some bp ∈ slots ∧ bp.addr = a :=
    exists_live_of_liveAt_ne_nil fun hlive => ha (hlayered.get?_eq hlive)
  refine ⟨?_, hdiffers, fun a bp hlast => hlayered.get?_eq_patched hlast, ?_⟩
  · intro hempty a
    apply Decidable.byContradiction
    intro ha
    rcases hdiffers a ha with ⟨bp, hbp, _⟩
    exact hempty bp hbp
  · intro addr e hinject heffect
    cases hget.symm.trans hinject
    have htake : steps.take (k + 1) = steps.take k ++ [.inject addr] := by
      rw [List.take_add_one, hget]
      rfl
    rw [← hslots, htake, afterSteps_concat]
    exact run_inject_of_failed arch heffect

def twoWords : Tracee :=
  .meet false (.ofMemory (.ofList [(0x401000, 0x4855fa1e0f6690c3), (0x402000, 0xf3)])
    ⟨[none, none, some "denied"], none⟩)

def nested : List Step :=
  [.inject 0x401000, .inject 0x402000, .inject 0x401000, .inject 0x401000,
    .inject 0x403000, .restore 1, .restore 2, .restore 0]

theorem memory_of_orderly_run_nested :
    OrderlyRun .x86_64 [] twoWords nested ∧
    (runSteps .x86_64 [] twoWords nested)[7]? =
      some (.restored, (afterSteps .x86_64 [] twoWords nested).2) ∧
    (afterSteps .x86_64 [] twoWords nested).1 = [none, none, none] ∧
    forall a, (afterSteps .x86_64 [] twoWords nested).2.memory.get? a =
      twoWords.memory.get? a := by
  have horderly : OrderlyRun .x86_64 [] twoWords nested := by decide
  have hstep : (runSteps .x86_64 [] twoWords nested)[7]? =
      some (.restored, (afterSteps .x86_64 [] twoWords nested).2) := rfl
  have hslots : (afterSteps .x86_64 [] twoWords nested).1 = [none, none, none] := rfl
  exact ⟨horderly, hstep, hslots,
    (memory_of_orderly_run horderly hstep hslots).left (by simp)⟩

end Breakpoint
end EntryStop
