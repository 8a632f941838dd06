/-!
# Signals

The signals that a stop or a death can be due to, and what each does to a
process that neither handles nor ignores it.
-/

namespace EntryStop

inductive Signal where
  | hup | int | quit | ill | trap | abrt | bus | fpe | kill | usr1 | segv | usr2
  | pipe | alrm | term | stkflt | chld | cont | stop | tstp | ttin | ttou | urg
  | xcpu | xfsz | vtalrm | prof | winch | io | pwr | sys
  deriving DecidableEq, Repr

namespace Signal

def all : List Signal :=
  [hup, int, quit, ill, trap, abrt, bus, fpe, kill, usr1, segv, usr2, pipe, alrm,
    term, stkflt, chld, cont, stop, tstp, ttin, ttou, urg, xcpu, xfsz, vtalrm,
    prof, winch, io, pwr, sys]

def name : Signal -> String
  | hup => "SIGHUP"
  | int => "SIGINT"
  | quit => "SIGQUIT"
  | ill => "SIGILL"
  | trap => "SIGTRAP"
  | abrt => "SIGABRT"
  | bus => "SIGBUS"
  | fpe => "SIGFPE"
  | kill => "SIGKILL"
  | usr1 => "SIGUSR1"
  | segv => "SIGSEGV"
  | usr2 => "SIGUSR2"
  | pipe => "SIGPIPE"
  | alrm => "SIGALRM"
  | term => "SIGTERM"
  | stkflt => "SIGSTKFLT"
  | chld => "SIGCHLD"
  | cont => "SIGCONT"
  | stop => "SIGSTOP"
  | tstp => "SIGTSTP"
  | ttin => "SIGTTIN"
  | ttou => "SIGTTOU"
  | urg => "SIGURG"
  | xcpu => "SIGXCPU"
  | xfsz => "SIGXFSZ"
  | vtalrm => "SIGVTALRM"
  | prof => "SIGPROF"
  | winch => "SIGWINCH"
  | io => "SIGIO"
  | pwr => "SIGPWR"
  | sys => "SIGSYS"

def ofName? (text : String) : Option Signal :=
  all.find? fun s => s.name == text

inductive Disposition where
  | terminate
  | dump
  | halt
  | ignore
  deriving DecidableEq, Repr

/-- What a signal does to a process that left its handling alone.  The signals of a terminal
halt nobody, because no shell is there to continue the process. -/
def disposition : Signal -> Disposition
  | quit | ill | trap | abrt | bus | fpe | segv | xcpu | xfsz | sys => .dump
  | stop => .halt
  | chld | cont | urg | winch | tstp | ttin | ttou => .ignore
  | _ => .terminate

end Signal
end EntryStop
