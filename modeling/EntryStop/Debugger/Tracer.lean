import EntryStop.Host.Pid
import EntryStop.Text.Blank
import EntryStop.Text.Lines
import EntryStop.Text.Numeral
import EntryStop.Text.Split

/-!
# The tracer of a process

The status file of a process names the process that traces it, zero if none does.
-/

namespace EntryStop
namespace Debugger

def tracerLabel : List Char := "TracerPid:".toList

/-- The tracer that a status text names in the first line with the label. -/
def tracerPid (status : List Char) : Option Pid := do
  let value ← (Text.lines status).findSome? (Text.afterMarker? tracerLabel)
  (Numeral.signed32 (Text.trim value)).toOption

end Debugger
end EntryStop
