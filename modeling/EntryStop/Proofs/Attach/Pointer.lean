import EntryStop.Proofs.Attach.Course

/-!
# Where a successful run leaves the child

A run moves the instruction pointer back by the length of the trap, wherever the child
has stopped for the third time.  The child is then on its first instruction only if it
had really run into the trap.
-/

namespace EntryStop
namespace Attach

theorem pointer_arrived {arch : Arch} {c : Child} {t : Tracee}
    (ht : t.view = arrived arch c) : t.pointer = arch.beforeTrap c.pointer :=
  congrArg (fun v : View => v.pointer) ht

theorem attach_ok {arch : Arch} {logging : Bool} {c : Child} {e : Address} {t : Tracee}
    (h : attach arch logging c = .ok e t) :
    e = c.entryAddress ∧ t.view = arrived arch c ∧ forall g : Hurdle, g.Clear c := by
  rcases attach_cases arch logging c with ⟨hattach, hview, hclear⟩ | ⟨f, hattach, _⟩
  · cases hattach.symm.trans h
    exact ⟨rfl, hview, hclear⟩
  · cases hattach.symm.trans h

/-- A successful run leaves the child on its entry exactly if the instruction pointer
was right behind the trap when the child had stopped for the third time. -/
theorem pointer_eq_entry_iff {arch : Arch} {logging : Bool} {c : Child} {e : Address}
    {t : Tracee} (h : attach arch logging c = .ok e t) :
    t.pointer = e ↔ c.pointer = arch.afterTrap e := by
  rcases attach_ok h with ⟨_, hview, _⟩
  rw [pointer_arrived hview]
  constructor
  · intro hback
    rw [← hback, Arch.afterTrap_beforeTrap]
  · intro hbehind
    rw [hbehind, Arch.beforeTrap_afterTrap]

/-!
## Two children
-/

def interrupted : Child :=
  willing (showing (.stopped 1234 .stop))
    (showing (.event 1234 .trap Status.execEvent))
    (showing (.stopped 1234 .usr1)) 0x7f0000000010

theorem pointer_eq_entry_iff_trapped :
    attach .x86_64 false trapped = .ok 0x401000 (left (attach .x86_64 false trapped)) ∧
      ((left (attach .x86_64 false trapped)).pointer = 0x401000 ↔
        trapped.pointer = Arch.x86_64.afterTrap 0x401000) := by
  have hattach : attach .x86_64 false trapped =
      .ok 0x401000 (left (attach .x86_64 false trapped)) := rfl
  exact ⟨hattach, pointer_eq_entry_iff hattach⟩

theorem pointer_ne_entry_of_interrupted :
    exists t, attach .x86_64 false interrupted = .ok 0x401000 t ∧
      t.pointer ≠ 0x401000 :=
  ⟨left (attach .x86_64 false interrupted), rfl, by decide⟩

end Attach
end EntryStop
