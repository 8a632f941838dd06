/-!
# Process numbers
-/

namespace EntryStop

/-- A process number.  The system's own are positive; any other one stands for a
process that does not exist. -/
abbrev Pid := Int32

def Pid.text (pid : Pid) : String :=
  toString pid.toInt

end EntryStop
