import EntryStop.Machine.Word

/-!
# Memory usage

The kernel counts the greatest resident size of a process in units of 1024 bytes.
-/

namespace EntryStop
namespace Usage

def peakBytes (units : Option Nat) : Nat :=
  1024 * units.getD 0

end Usage
end EntryStop
