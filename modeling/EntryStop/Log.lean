/-!
# Log records

What the program tells about its work: a level, the part of the program that
speaks, and one text.
-/

namespace EntryStop
namespace Log

inductive Level where
  | error
  | warn
  | info
  | debug
  | trace
  deriving DecidableEq, Repr

namespace Level

def name : Level -> String
  | error => "ERROR"
  | warn => "WARN"
  | info => "INFO"
  | debug => "DEBUG"
  | trace => "TRACE"

def verbosity : Level -> Nat
  | error => 1
  | warn => 2
  | info => 3
  | debug => 4
  | trace => 5

end Level

inductive Topic where
  | command
  | attach
  | breakpoint
  | image
  | entry
  | identPort
  | resume
  | debugger
  | scope
  deriving DecidableEq, Repr

def Topic.path : Topic -> String
  | command => "mainstop"
  | attach => "mainstop::attach"
  | breakpoint => "mainstop::tracer::breakpoint"
  | image => "mainstop::elf"
  | entry => "mainstop::entry"
  | identPort => "mainstop::ident"
  | resume => "mainstop::resume"
  | debugger => "mainstop::debugger"
  | scope => "mainstop::scope"

structure Record where
  level : Level
  topic : Topic
  text : String
  deriving DecidableEq, Repr

end Log
end EntryStop
