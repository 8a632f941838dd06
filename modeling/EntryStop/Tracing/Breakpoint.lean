import EntryStop.Machine.Arch
import EntryStop.Tracing.Tracee

/-!
# Breakpoints

A breakpoint puts a trap over the first bytes of the word at an address and keeps
the word, which has to be put back.
-/

namespace EntryStop

structure Breakpoint where
  addr : Address
  saved : Word
  patched : Word
  deriving DecidableEq, Repr

namespace Breakpoint

inductive Error where
  | unreadable (addr : Address) (reason : String)
  | unwritable (addr : Address) (reason : String)
  | notRestored (addr : Address) (reason : String)
  deriving DecidableEq, Repr

def Error.message : Error -> String
  | unreadable addr reason => "cannot read word at " ++ Word.hex addr ++ ", " ++ reason
  | unwritable addr reason =>
      "cannot write breakpoint to " ++ Word.hex addr ++ ", " ++ reason
  | notRestored addr reason =>
      "cannot restore original word at " ++ Word.hex addr ++ ", " ++ reason

def inject (arch : Arch) (addr : Address) : Tracing Error Breakpoint := do
  let saved ← (Tracing.readWord addr).adaptExcept (.unreadable addr)
  Tracing.detail (.wordRead saved addr)
  let patched := arch.patch saved
  (Tracing.writeWord addr patched).adaptExcept (.unwritable addr)
  Tracing.detail (.wordChanged addr patched)
  return ⟨addr, saved, patched⟩

def restore (bp : Breakpoint) : Tracing Error Unit :=
  (Tracing.writeWord bp.addr bp.saved).adaptExcept (.notRestored bp.addr)

/-!
## Several breakpoints
-/

/-- One step on a child with several breakpoints.  Each breakpoint that was put in
has a slot of its own, numbered in the order of the steps. -/
inductive Step where
  | inject (addr : Address)
  | restore (slot : Nat)
  | poke (addr : Address) (word : Word)
  deriving DecidableEq, Repr

inductive Effect where
  | injected (slot : Nat) (bp : Breakpoint)
  | restored
  | emptySlot
  | poked (old : Option Word)
  | failed (error : Error)
  deriving DecidableEq, Repr

/-- The breakpoints by their slots.  A slot is empty from the first attempt to
restore its breakpoint on. -/
abbrev Slots := List (Option Breakpoint)

def Step.run (arch : Arch) (slots : Slots) (t : Tracee) : Step -> Effect × Slots × Tracee
  | inject addr =>
      match Breakpoint.inject arch addr t with
      | .ok bp t => (.injected slots.length bp, slots ++ [some bp], t)
      | .error e t => (.failed e, slots, t)
  | restore slot =>
      match slots[slot]?.join with
      | none => (.emptySlot, slots, t)
      | some bp =>
          match bp.restore t with
          | .ok _ t => (.restored, slots.set slot none, t)
          | .error e t => (.failed e, slots.set slot none, t)
  | poke addr word =>
      (.poked (t.memory.get? addr), slots,
        { t with memory := t.memory.set addr word })

def runSteps (arch : Arch) (slots : Slots) (t : Tracee) : List Step -> List (Effect × Tracee)
  | [] => []
  | step :: steps =>
      let (effect, slots, t) := step.run arch slots t
      (effect, t) :: runSteps arch slots t steps

end Breakpoint
end EntryStop
