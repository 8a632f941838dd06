import EntryStop.CommandLine.Run
import EntryStop.Program.Parser

/-!
# The command

Looks at the host as far as the invocation needs it, runs the command on what was
found, and prints its answer.  Links of open files cannot be followed and other
programs cannot be started from here; both count as denied.
-/

namespace EntryStop
namespace Console

def fileError : IO.Error -> FileError
  | .noFileOrDirectory .. => .notFound
  | .inappropriateType _ 20 _ => .notDirectory
  | .inappropriateType .. => .isDirectory
  | _ => .denied

def readBytes (path : String) : IO (Except FileError (List UInt8)) := do
  try
    return .ok (← IO.FS.readBinFile path).toList
  catch e => return .error (fileError e)

def readText (path : String) : IO (Except FileError (List Char)) := do
  return (← readBytes path).bind fun bytes =>
    match Utf8.decode? bytes with
    | some text => .ok text
    | none => .error .notText

def readProcessFiles (pid : Pid) : IO ProcessFiles := do
  return {
    maps := ← readBytes (ProcessFiles.mapsPath pid)
    status := ← readText (ProcessFiles.statusPath (some pid))
    descriptors := .error .denied
    tcp := ← readText (ProcessFiles.tcpPath pid)
    tcp6 := ← readText (ProcessFiles.tcp6Path pid) }

def inSeconds (ns : Word) : String :=
  toString (ns.toFloat / 1000000000)

def readHost (command : CommandLine.Command) : IO CommandLine.Host := do
  let files ← match command.pid? with
    | some pid => readProcessFiles pid
    | none => pure ProcessFiles.absent
  let image ← match command.imagePath? files with
    | some path => readBytes path
    | none => pure (.error .notFound)
  return {
    processFiles := fun _ => files
    file := fun _ => image
    ownStatus := (← readText (ProcessFiles.statusPath none)).toOption
    scope := (← readText Scope.path).toOption
    listing := .error .denied
    parse := .standard
    inSeconds }

def hostFor (arguments : List String) : IO CommandLine.Host := do
  match CommandLine.Request.ofArguments arguments with
  | .run invocation => readHost invocation.command
  | _ => readHost .scope

def filterVariable : String := "RUST_LOG"

end Console
end EntryStop

open EntryStop in
def main (arguments : List String) : IO UInt32 := do
  let filter ← IO.getEnv Console.filterVariable
  let outcome := CommandLine.run (← Console.hostFor arguments) filter arguments
  (← IO.getStdout).putStr outcome.out
  (← IO.getStderr).putStr outcome.err
  return UInt32.ofNat outcome.code
