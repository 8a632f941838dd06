import EntryStop.Host.Files
import EntryStop.Host.Pid

/-!
# Process files

The files in which the kernel shows a process: where they are, and what they
hold.
-/

namespace EntryStop

structure ProcessFiles where
  maps : Except FileError (List UInt8)
  status : Except FileError (List Char)
  descriptors : Except FileError (List (List Char))
  tcp : Except FileError (List Char)
  tcp6 : Except FileError (List Char)

namespace ProcessFiles

def absent : ProcessFiles :=
  ⟨.error .notFound, .error .notFound, .error .notFound, .error .notFound,
    .error .notFound⟩

/-!
## Paths
-/

def path (pid : Pid) : String := "/proc/" ++ pid.text

def mapsPath (pid : Pid) : String := path pid ++ "/maps"

def descriptorsPath (pid : Pid) : String := path pid ++ "/fd"

def tcpPath (pid : Pid) : String := path pid ++ "/net/tcp"

def tcp6Path (pid : Pid) : String := path pid ++ "/net/tcp6"

def statusPath : Option Pid -> String
  | some pid => path pid ++ "/status"
  | none => "/proc/self/status"

end ProcessFiles
end EntryStop
