import EntryStop.Host.ProcessFiles
import EntryStop.IdentPort.Backoff
import EntryStop.IdentPort.Listing
import EntryStop.IdentPort.SocketTable
import EntryStop.Log
import EntryStop.Text.Utf8

/-!
# Finding the port of a process

A process is asked for its port in one of two ways: by a command that lists its
open ports, or by the kernel's tables of listening sockets.
-/

namespace EntryStop
namespace IdentPort

/-!
## Notices
-/

inductive Notice where
  | commandMissing (cause : FileError)
  | noOutput (pid : Pid)
  | malformed (error : Listing.Error)
  | tableUnreadable (path : String) (cause : FileError)
  deriving DecidableEq, Repr

def arguments (pid : Pid) : List String :=
  ["-p", pid.text, "-a", "-i", "4", "-F", "n"]

namespace Notice

def level : Notice -> Log.Level
  | commandMissing _ | tableUnreadable .. => .debug
  | noOutput _ | malformed _ => .error

def text : Notice -> String
  | commandMissing cause => "cannot run lsof: " ++ cause.message
  | noOutput pid =>
      "No output from lsof command: 'lsof " ++ " ".intercalate (arguments pid) ++ "'"
  | malformed error => error.message
  | tableUnreadable path cause => "cannot read " ++ path ++ ": " ++ cause.message

def record (n : Notice) : Log.Record :=
  ⟨n.level, .identPort, n.text⟩

end Notice

/-!
## By a listing
-/

def attempts : Nat := 10

def initialDelay : Backoff.Delay := 1000000

structure Found where
  port : Except Fault UInt16
  runs : Nat
  waits : List Backoff.Delay
  notices : List Notice

def ofOutputs (pid : Pid) (range : PortRange) (outputs : List (Option (List Char))) :
    Found :=
  let retried := Backoff.retry attempts initialDelay outputs
  let (port, notices) :=
    match retried.output with
    | .error fault => (.error fault, [])
    | .ok none => (.ok 0, [.noOutput pid])
    | .ok (some output) =>
        match Listing.parse output pid range with
        | .ok port => (.ok port, [])
        | .error error => (.ok 0, [.malformed error])
  ⟨port, retried.runs, retried.waits, notices⟩

abbrev Command := Except FileError (List (List UInt8))

def ofCommand (pid : Pid) (range : PortRange) : Command -> Found
  | .ok outputs => ofOutputs pid range (outputs.map fun bytes => some (Utf8.lossy bytes))
  | .error cause =>
      let found := ofOutputs pid range []
      { found with
        notices := List.replicate found.runs (.commandMissing cause) ++ found.notices }

/-!
## By the socket tables
-/

inductive Error where
  | unreadableDescriptors (pid : Pid) (cause : FileError)
  | unreadableTable (pid : Pid) (cause : FileError)
  deriving DecidableEq, Repr

def Error.message : Error -> String
  | unreadableDescriptors pid cause =>
      "failed to read " ++ ProcessFiles.descriptorsPath pid ++ ", " ++ cause.message
  | unreadableTable pid cause =>
      "cannot read " ++ ProcessFiles.tcpPath pid ++ ": " ++ cause.message

def socketInodes (pid : Pid) (files : ProcessFiles) : Except Error (List UInt64) :=
  match files.descriptors with
  | .error cause => .error (.unreadableDescriptors pid cause)
  | .ok targets => .ok (SocketTable.inodes targets)

def ofTable (range : PortRange) (inodes : List UInt64) (table : List Char) :
    Option UInt16 :=
  ((SocketTable.listeners table).find? fun l =>
    range.contains l.port && inodes.contains l.inode).map fun l => l.port.toUInt16

/-- The port on which a process listens.  The second table is looked at only if the
first has no such port, and may be missing. -/
def ofFiles (pid : Pid) (range : PortRange) (files : ProcessFiles) :
    List Notice × Except Error (Option UInt16) :=
  match socketInodes pid files with
  | .error e => ([], .error e)
  | .ok inodes =>
      match files.tcp with
      | .error cause => ([], .error (.unreadableTable pid cause))
      | .ok table =>
          match ofTable range inodes table with
          | some port => ([], .ok (some port))
          | none =>
              match files.tcp6 with
              | .error cause =>
                  ([.tableUnreadable (ProcessFiles.tcp6Path pid) cause], .ok none)
              | .ok table => ([], .ok (ofTable range inodes table))

end IdentPort
end EntryStop
