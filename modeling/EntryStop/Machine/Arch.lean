import EntryStop.Machine.Fault
import EntryStop.Machine.Word

/-!
# Processor descriptions

How a trap instruction looks in memory and where it leaves the instruction
pointer.
-/

namespace EntryStop

structure Arch where
  trap : Word
  trapLength : Nat
  rollback : Word
  deriving DecidableEq, Repr

namespace Arch

/-- One byte of trap, after which the instruction pointer has moved on by one. -/
def x86_64 : Arch := ⟨0xCC, 1, 1⟩

/-- Four bytes of trap, at which the instruction pointer still stands. -/
def aarch64 : Arch := ⟨0xD4200000, 4, 0⟩

def keepMask (arch : Arch) : Word :=
  if arch.trapLength ≥ 8 then 0
  else Word.greatest <<< UInt64.ofNat (8 * arch.trapLength)

def patch (arch : Arch) (word : Word) : Word :=
  (word &&& arch.keepMask) ||| arch.trap

/-- The mask computed with checks: its width in bits has to fit in a word, and a word can
only be moved by less than its own width. -/
def checkedKeepMask (arch : Arch) : Except Fault Word :=
  if arch.trapLength ≥ 8 then .ok 0
  else
    match Word.mul? (UInt64.ofNat arch.trapLength) 8 with
    | none => .error .mulOverflow
    | some bits =>
        match Word.shiftLeft? Word.greatest bits with
        | none => .error .shiftOverflow
        | some mask => .ok mask

def checkedPatch (arch : Arch) (word : Word) : Except Fault Word :=
  arch.checkedKeepMask.map fun mask => (word &&& mask) ||| arch.trap

def afterTrap (arch : Arch) (entry : Address) : Address :=
  entry + arch.rollback

def beforeTrap (arch : Arch) (pointer : Address) : Address :=
  pointer - arch.rollback

theorem beforeTrap_afterTrap (arch : Arch) (entry : Address) :
    arch.beforeTrap (arch.afterTrap entry) = entry := by
  simp [beforeTrap, afterTrap]

theorem afterTrap_beforeTrap (arch : Arch) (pointer : Address) :
    arch.afterTrap (arch.beforeTrap pointer) = pointer := by
  simp [beforeTrap, afterTrap]

end Arch
end EntryStop
