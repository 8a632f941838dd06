/-!
# Faults

A fault ends the program at once: an arithmetic operation left the range of its
type, or a section table was read where it cannot be.  It is kept apart from an
error, which a caller receives and reports.
-/

namespace EntryStop

inductive Fault where
  | addOverflow
  | subOverflow
  | mulOverflow
  | shiftOverflow
  | delayOverflow
  | reservedSection
  | sliceBeyondEnd (stop length : Nat)
  | misalignedTable
  deriving DecidableEq, Repr

namespace Fault

def message : Fault -> String
  | addOverflow => "attempt to add with overflow"
  | subOverflow => "attempt to subtract with overflow"
  | mulOverflow => "attempt to multiply with overflow"
  | shiftOverflow => "attempt to shift left with overflow"
  | delayOverflow => "overflow when multiplying duration by scalar"
  | reservedSection => "Attempt to get section for a reserved index"
  | sliceBeyondEnd stop length =>
      s!"range end index {stop} out of range for slice of length {length}"
  | misalignedTable =>
      "assertion failed: (addr & (mem::align_of::<T>() - 1)) == 0"

end Fault

inductive Failure (ε : Type) where
  | reported (error : ε)
  | fault (fault : Fault)
  deriving DecidableEq, Repr

namespace Failure

def map {ε δ : Type} (f : ε -> δ) : Failure ε -> Failure δ
  | reported e => reported (f e)
  | fault f => fault f

end Failure
end EntryStop
