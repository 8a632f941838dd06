import EntryStop.Host.Settings
import EntryStop.Log
import EntryStop.Text.Blank
import EntryStop.Text.Numeral

/-!
# The scope of tracing

The system may restrict which processes a process can trace.  Children can be
traced up to level one; beyond it, at most one warning is given.
-/

namespace EntryStop
namespace Scope

def path : String := "/proc/sys/kernel/yama/ptrace_scope"

/-- The level that the file names; without a file or a number there is no
restriction. -/
def level (contents : Option (List Char)) : Int32 :=
  ((contents.bind fun text => (Numeral.signed32 (Text.trim text)).toOption)).getD 0

structure Warning where
  level : Int32
  deriving DecidableEq, Repr

def Warning.record (w : Warning) : Log.Record :=
  ⟨.warn, .scope, s!"ptrace_scope value {w.level.toInt} means ptrace can't be used to pause child processes while attaching."⟩

structure Request where
  enabled : Bool
  level : Int32
  replay : Bool
  deriving DecidableEq, Repr

structure Decision where
  allowed : Bool
  warned : Bool
  warnings : List Warning
  deriving DecidableEq, Repr

def Request.restricted (r : Request) : Bool :=
  r.enabled && 1 < r.level

def decide (warned : Bool) (r : Request) : Decision :=
  if !r.enabled then ⟨false, warned, []⟩
  else if 1 < r.level then
    if r.replay && !warned then ⟨false, true, [⟨r.level⟩]⟩ else ⟨false, warned, []⟩
  else ⟨true, warned, []⟩

def decideAll : (warned : Bool) -> List Request -> List Decision
  | _, [] => []
  | warned, r :: rs =>
      let d := decide warned r
      d :: decideAll d.warned rs

def allows (settings : Settings) (warned : Bool) (contents : Option (List Char)) :
    Decision :=
  if settings.traceChildren then decide warned ⟨true, level contents, settings.replay⟩
  else ⟨false, warned, []⟩

end Scope
end EntryStop
