import EntryStop.CommandLine.Arguments
import EntryStop.Host.Pid
import EntryStop.IdentPort.Range
import EntryStop.Text.Numeral

/-!
# Invocations

What the command line asks for: a command with its numbers, and the settings for
all commands.
-/

namespace EntryStop
namespace CommandLine

inductive Command where
  | inspect (pid : Pid)
  | identPort (pid : Pid) (range : PortRange) (byFiles : Bool)
  | resume (pid : Pid) (delay : UInt32)
  | debuggerPresent
  | scope
  deriving DecidableEq, Repr

structure Invocation where
  verbose : Bool
  filter : Option String
  trace : Bool
  logging : Bool
  command : Command
  deriving DecidableEq, Repr

inductive Request where
  | run (invocation : Invocation)
  | version (name : String)
  | help
  | mistake
  deriving DecidableEq, Repr

def programName : String := "mainstop"

def programVersion : String := "0.1.0"

/-!
## Accepted arguments
-/

def mainSpec : ArgumentSpec where
  options :=
    [⟨"verbose", some 'v', none, false⟩, ⟨"loglevel", some 'l', none, true⟩,
      ⟨"no-ptrace", none, some "no-ptrace", false⟩,
      ⟨"ptrace-logging", none, some "ptrace-logging", false⟩]
  positionals := 0
  commands :=
    ["inspect", "ident-port", "resume", "debugger-present", "scope", "help"]

def commandSpec : String -> ArgumentSpec
  | "inspect" => ⟨[], 1, []⟩
  | "ident-port" =>
      ⟨[⟨"first", none, some "first", true⟩, ⟨"last", none, some "last", true⟩,
        ⟨"procfs", none, some "procfs", false⟩], 1, []⟩
  | "resume" => ⟨[⟨"delay", some 'd', some "delay", true⟩], 1, []⟩
  | _ => ⟨[], 0, []⟩

/-!
## Numbers
-/

def pidOf (p : Parsed) : Option Pid := do
  let text ← p.positionals.head?
  (Numeral.signed32 text.toList).toOption

def portOf (p : Parsed) (key : String) (standard : UInt16) : Option UInt16 :=
  match p.value? key with
  | none => some standard
  | some text => (Numeral.word16 10 text.toList).toOption

def delayOf (p : Parsed) : Option UInt32 :=
  match p.value? "delay" with
  | none => some 0
  | some text => (Numeral.word32 10 text.toList).toOption

def commandOf (name : String) (p : Parsed) : Option Command :=
  match name with
  | "inspect" => do return .inspect (← pidOf p)
  | "ident-port" => do
      let first ← portOf p "first" PortRange.standard.first
      let last ← portOf p "last" PortRange.standard.last
      return .identPort (← pidOf p) ⟨first, last⟩ (p.given "procfs")
  | "resume" => do return .resume (← pidOf p) (← delayOf p)
  | "debugger-present" => some .debuggerPresent
  | "scope" => some .scope
  | _ => none

/-!
## Command lines
-/

def stopped (name : String) : Stop -> Request
  | .version => .version name
  | .help => .help
  | .unknown => .mistake

def Request.ofTopics : List String -> Request
  | [] => .help
  | [topic] => if mainSpec.commands.contains topic then .help else .mistake
  | _ => .mistake

/-- What the arguments ask for.  The arguments of the command are read before those
in front of it are weighed. -/
def Request.ofArguments (arguments : List String) : Request :=
  match readArguments mainSpec .start arguments with
  | .error stop => stopped programName stop
  | .ok ⟨_, _, none⟩ => .mistake
  | .ok ⟨_, _, some ("help", topics)⟩ => Request.ofTopics topics
  | .ok ⟨options, positionals, some (name, rest)⟩ =>
      let p : Parsed := ⟨options, positionals, none⟩
      let spec := commandSpec name
      match readArguments spec .start rest with
      | .error stop => stopped (programName ++ "-" ++ name) stop
      | .ok q =>
          if !q.isProper spec || !p.isProper mainSpec then .mistake
          else if p.given "verbose" && p.given "loglevel" then .mistake
          else
            match commandOf name q with
            | none => .mistake
            | some command =>
                .run ⟨p.given "verbose", p.value? "loglevel", !p.given "no-ptrace",
                  p.given "ptrace-logging", command⟩

end CommandLine
end EntryStop
