import EntryStop.Proofs.Tracing.Ends

/-!
# What steps with breakpoints do to the memory

An injection stores the patched word or changes nothing.  A restoration empties its slot,
and stores the saved word unless it is refused.
-/

namespace EntryStop
namespace Breakpoint

section

variable (t : Tracee)

theorem inject_cases (arch : Arch) (addr : Address) :
    (exists word t', t.memory.get? addr = some word ∧
      inject arch addr t = .ok ⟨addr, word, arch.patch word⟩ t' ∧
      t'.memory = t.memory.set addr (arch.patch word)) ∨
    (exists e t', inject arch addr t = .error e t' ∧ t'.memory = t.memory) := by
  have hends : Tracing.Ends (inject arch addr) t.view
      (fun bp v => exists word, t.memory.get? addr = some word ∧
        bp = ⟨addr, word, arch.patch word⟩ ∧
        v.memory = t.memory.set addr (arch.patch word))
      (fun _ v => v.memory = t.memory) :=
    Tracing.Ends.inject (fun word _ hword _ => ⟨word, hword, rfl, rfl⟩)
      (fun _ _ => rfl) (fun _ _ _ _ _ => rfl)
  have hend := hends t rfl
  cases hinject : inject arch addr t with
  | ok bp t' =>
      rw [hinject] at hend
      rcases hend with ⟨word, hword, rfl, hmemory⟩
      exact Or.inl ⟨word, t', hword, rfl, hmemory⟩
  | error e t' =>
      rw [hinject] at hend
      exact Or.inr ⟨e, t', rfl, hend⟩

theorem restore_cases (bp : Breakpoint) :
    (exists t', bp.restore t = .ok () t' ∧ t'.memory = t.memory.set bp.addr bp.saved) ∨
    (exists e t', bp.restore t = .error e t' ∧ t'.memory = t.memory) := by
  have hends : Tracing.Ends bp.restore t.view
      (fun _ v => v.memory = t.memory.set bp.addr bp.saved)
      (fun _ v => v.memory = t.memory) :=
    Tracing.Ends.restore (fun _ => rfl) (fun _ _ => rfl)
  have hend := hends t rfl
  cases hrestore : bp.restore t with
  | ok _ t' =>
      rw [hrestore] at hend
      exact Or.inl ⟨t', rfl, hend⟩
  | error e t' =>
      rw [hrestore] at hend
      exact Or.inr ⟨e, t', rfl, hend⟩

end

/-!
## Steps
-/

section

variable (arch : Arch) (slots : Slots) (t : Tracee)

theorem run_inject_cases (addr : Address) :
    (exists word t', t.memory.get? addr = some word ∧
      (Step.inject addr).run arch slots t =
        (.injected slots.length ⟨addr, word, arch.patch word⟩,
          slots ++ [some ⟨addr, word, arch.patch word⟩], t') ∧
      t'.memory = t.memory.set addr (arch.patch word)) ∨
    (exists e t', (Step.inject addr).run arch slots t = (.failed e, slots, t') ∧
      t'.memory = t.memory) := by
  rcases inject_cases t arch addr with ⟨word, t', hword, hinject, hmemory⟩ | ⟨e, t', hinject, hmemory⟩
  · refine Or.inl ⟨word, t', hword, ?_, hmemory⟩
    simp only [Step.run, hinject]
  · refine Or.inr ⟨e, t', ?_, hmemory⟩
    simp only [Step.run, hinject]

variable {slots t}

theorem run_inject_of_failed {addr : Address} {e : Error}
    (h : ((Step.inject addr).run arch slots t).1 = .failed e) :
    ((Step.inject addr).run arch slots t).2.1 = slots ∧
      ((Step.inject addr).run arch slots t).2.2.memory = t.memory := by
  rcases run_inject_cases arch slots t addr with
    ⟨word, t', _, hrun, _⟩ | ⟨e', t', hrun, hmemory⟩
  · rw [hrun] at h
    cases h
  · rw [hrun]
    exact ⟨rfl, hmemory⟩

variable (t)

theorem run_restore_of_empty {slot : Nat} (h : slots[slot]?.join = none) :
    (Step.restore slot).run arch slots t = (.emptySlot, slots, t) := by
  simp only [Step.run, h]

theorem run_restore_cases {slot : Nat} {bp : Breakpoint}
    (h : slots[slot]?.join = some bp) :
    (exists t', (Step.restore slot).run arch slots t =
        (.restored, slots.set slot none, t') ∧
      t'.memory = t.memory.set bp.addr bp.saved) ∨
    (exists e t', (Step.restore slot).run arch slots t =
        (.failed e, slots.set slot none, t') ∧
      t'.memory = t.memory) := by
  rcases restore_cases t bp with ⟨t', hrestore, hmemory⟩ | ⟨e, t', hrestore, hmemory⟩
  · refine Or.inl ⟨t', ?_, hmemory⟩
    simp only [Step.run, h, hrestore]
  · refine Or.inr ⟨e, t', ?_, hmemory⟩
    simp only [Step.run, h, hrestore]

end

/-!
## Runs
-/

def afterSteps (arch : Arch) (slots : Slots) (t : Tracee) : List Step -> Slots × Tracee
  | [] => (slots, t)
  | step :: steps =>
      let (_, slots, t) := step.run arch slots t
      afterSteps arch slots t steps

section

variable {arch : Arch} {slots : Slots} {t : Tracee}

theorem afterSteps_concat (steps : List Step) (step : Step) :
    afterSteps arch slots t (steps ++ [step]) =
      (step.run arch (afterSteps arch slots t steps).1
        (afterSteps arch slots t steps).2).2 := by
  induction steps generalizing slots t with
  | nil => rfl
  | cons head steps ih => exact ih

theorem getElem?_runSteps (steps : List Step) (k : Nat) :
    (runSteps arch slots t steps)[k]? =
      steps[k]?.map fun step =>
        ((step.run arch (afterSteps arch slots t (steps.take k)).1
            (afterSteps arch slots t (steps.take k)).2).1,
          (afterSteps arch slots t (steps.take (k + 1))).2) := by
  induction steps generalizing slots t k with
  | nil => rfl
  | cons step steps ih =>
      cases k with
      | zero => rfl
      | succ k => exact ih k

end

end Breakpoint
end EntryStop
