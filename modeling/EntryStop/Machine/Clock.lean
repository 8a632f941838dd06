import EntryStop.Machine.Fault
import EntryStop.Machine.Word

/-!
# The monotonic clock

Times are nanoseconds in a machine word.  A reading may fail; a span with a
failed reading at either end counts as endless, so that a wait ends instead of
polling for ever.
-/

namespace EntryStop
namespace Clock

abbrev Reading := Option Word

def millis (n : Word) : Except Fault Word :=
  match Word.mul? n 1000000 with
  | some ns => .ok ns
  | none => .error .mulOverflow

def seconds (n : Word) : Except Fault Word :=
  match Word.mul? n 1000000000 with
  | some ns => .ok ns
  | none => .error .mulOverflow

def stamp (reading : Reading) : Word :=
  reading.getD 0

def elapsed (start : Word) : Reading -> Word
  | none => Word.greatest
  | some now => if start = 0 then Word.greatest else Word.monus now start

theorem elapsed_some {start : Word} (h : start ≠ 0) (now : Word) :
    elapsed start (some now) = Word.monus now start := by
  simp [elapsed, h]

end Clock
end EntryStop
