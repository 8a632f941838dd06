import EntryStop.Tracing.Tracee

/-!
# Refused calls

The wording with which the system refuses calls on a process, and a process that
is not traced by the program, on which all of them are refused.
-/

namespace EntryStop

inductive Errno where
  | noProcess
  | notPermitted
  | io
  deriving DecidableEq, Repr

def Errno.text : Errno -> String
  | noProcess => "ESRCH: No such process"
  | notPermitted => "EPERM: Operation not permitted"
  | io => "EIO: I/O error"

namespace Refusal

def getRegisters (e : Errno) : String := "cannot get registers with ptrace, " ++ e.text

def setRegisters (e : Errno) : String := "cannot set registers with ptrace, " ++ e.text

def traceExec (e : Errno) : String := "cannot set ptrace options, " ++ e.text

def cont (e : Errno) : String := "cannot continue tracee with ptrace, " ++ e.text

def detach (e : Errno) : String := "cannot detach from tracee, " ++ e.text

def readWord (e : Errno) : String := "cannot read with ptrace, " ++ e.text

def writeWord (e : Errno) : String := "cannot write with ptrace, " ++ e.text

def traceMe (e : Errno) : String := "PTRACE_TRACEME failed, " ++ e.text

end Refusal

def Refusals.all (e : Errno) : Refusals where
  traceExec := some (Refusal.traceExec e)
  cont := .refused (Refusal.cont e)
  readWord := some (Refusal.readWord e)
  writeWord := .refused (Refusal.writeWord e)
  getRegisters := some (Refusal.getRegisters e)
  setRegisters := some (Refusal.setRegisters e)

def Child.untraced (pid : Pid) (source : Entry.Source) : Child :=
  { Child.ofMemory .empty .granted with
    pid
    source := .files source
    refusals := .all .noProcess }

end EntryStop
