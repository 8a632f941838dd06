import EntryStop.Tracing.Status

/-!
# Ends of processes

A process ends with a code, or a signal kills it.
-/

namespace EntryStop

inductive Ending where
  | exited (code : UInt8)
  | killed (signal : Signal)
  deriving DecidableEq, Repr

namespace Ending

def text : Ending -> String
  | exited code => s!"exited {code.toNat}"
  | killed signal => "killed by " ++ signal.name

def status (pid : Pid) : Ending -> Status
  | exited code => .exited pid (Int32.ofInt code.toNat)
  | killed signal => .signaled pid signal false

end Ending
end EntryStop
