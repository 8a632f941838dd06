import EntryStop.Host.Pid
import EntryStop.Tracing.Signal

/-!
# Wait statuses

The state changes that a parent is told about a child, and which of them leave
the child stopped under its tracer.
-/

namespace EntryStop

inductive Status where
  | exited (pid : Pid) (code : Int32)
  | signaled (pid : Pid) (signal : Signal) (dumped : Bool)
  | stopped (pid : Pid) (signal : Signal)
  | event (pid : Pid) (signal : Signal) (event : Int32)
  | syscall (pid : Pid)
  | continued (pid : Pid)
  | stillAlive
  deriving DecidableEq, Repr

namespace Status

/-- The event by which a tracee reports that it runs a new program. -/
def execEvent : Int32 := 4

def isStop : Status -> Bool
  | stopped .. | event .. | syscall .. => true
  | _ => false

def isExit : Status -> Bool
  | exited .. | signaled .. => true
  | _ => false

def isExec : Status -> Bool
  | event _ _ e => e == execEvent
  | _ => false

theorem isStop_eq_false_of_isExit {s : Status} (h : s.isExit = true) :
    s.isStop = false := by
  cases s <;> simp_all [isStop, isExit]

/-!
## Spelling
-/

def pidText (pid : Pid) : String :=
  "Pid(" ++ pid.text ++ ")"

def text : Status -> String
  | exited pid code => "Exited(" ++ pidText pid ++ ", " ++ toString code.toInt ++ ")"
  | signaled pid signal dumped =>
      "Signaled(" ++ pidText pid ++ ", " ++ signal.name ++ ", " ++
        (if dumped then "true" else "false") ++ ")"
  | stopped pid signal => "Stopped(" ++ pidText pid ++ ", " ++ signal.name ++ ")"
  | event pid signal e =>
      "PtraceEvent(" ++ pidText pid ++ ", " ++ signal.name ++ ", " ++
        toString e.toInt ++ ")"
  | syscall pid => "PtraceSyscall(" ++ pidText pid ++ ")"
  | continued pid => "Continued(" ++ pidText pid ++ ")"
  | stillAlive => "StillAlive"

def optionText : Option Status -> String
  | none => "None"
  | some s => "Some(" ++ s.text ++ ")"

end Status
end EntryStop
