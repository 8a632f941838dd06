import EntryStop.CommandLine.Filter
import EntryStop.CommandLine.Invocation
import EntryStop.Debugger.Presence
import EntryStop.Debugger.Release
import EntryStop.Host.Scope
import EntryStop.IdentPort.Find
import EntryStop.Program.Entry
import EntryStop.Tracing.Refusal

/-!
# Running a command

A command looks at a host and answers with an exit code, the lines that it prints
and the records that it logs.
-/

namespace EntryStop
namespace CommandLine

/-- What a command can see: the files of processes, the files that a map may name,
the program's own status, the scope of tracing, and the command that lists
ports.  With it stands what takes images apart and what writes nanoseconds in seconds. -/
structure Host where
  processFiles : Pid -> ProcessFiles
  file : String -> Except FileError (List UInt8)
  ownStatus : Option (List Char)
  scope : Option (List Char)
  listing : IdentPort.Command
  parse : Image.Parser
  inSeconds : Word -> String

structure Answer where
  code : Nat
  lines : List String
  records : List Log.Record

namespace Answer

def ok (lines : List String) : Answer := ⟨0, lines, []⟩

def failed (lines : List String) (message : String) : Answer :=
  ⟨1, lines, [⟨.error, .command, message⟩]⟩

def faultCode : Nat := 101

def faulted (lines : List String) : Answer := ⟨faultCode, lines, []⟩

def mistake : Answer := ⟨2, [], []⟩

end Answer

/-!
## Commands
-/

def mappingLine (m : Mapping) : String :=
  s!"{Word.hex m.start}-{Word.hex m.stop} offset {Word.hex m.offset} " ++ m.pathname

def imageLine (info : EntryInfo) : String :=
  s!"entry {Word.hex info.entry} ({info.sections.length} sections)"

def inspect (host : Host) (logging : Bool) (pid : Pid) : Answer :=
  match Entry.readMaps pid (host.processFiles pid).maps with
  | .error e => .failed [] e.message
  | .ok maps =>
      match MemoryMap.firstExecutable maps with
      | none => .failed [] s!"no executable mapping in process {pid.text}"
      | some m =>
          match Entry.readImage host.parse logging m.pathname (host.file m.pathname) with
          | (_, .error (.fault _)) => .faulted [mappingLine m]
          | (_, .error (.reported e)) => .failed [mappingLine m] e.message
          | (told, .ok info) =>
              let lines := [mappingLine m, imageLine info]
              let answer :=
                match Entry.address m info with
                | .error _ => Answer.faulted lines
                | .ok none =>
                    Answer.failed lines s!"no section contains entry {Word.hex info.entry}"
                | .ok (some a) => Answer.ok (lines ++ [s!"runtime entry {Word.hex a}"])
              { answer with records := told.map Notice.record ++ answer.records }

def portAnswer (records : List Log.Record) (port : UInt16) : Answer :=
  if port = 0 then ⟨1, [], records⟩ else ⟨0, [toString port.toNat], records⟩

def identPort (host : Host) (pid : Pid) (range : PortRange) (byFiles : Bool) : Answer :=
  if byFiles then
    let (notices, found) := IdentPort.ofFiles pid range (host.processFiles pid)
    let records := notices.map IdentPort.Notice.record
    let error (message : String) : Log.Record := ⟨.error, .command, message⟩
    match found with
    | .ok (some port) => portAnswer records port
    | .ok none =>
        portAnswer
          (records ++ [error s!"process {pid.text} listens on no port in {range.text}"]) 0
    | .error e => portAnswer (records ++ [error e.message]) 0
  else
    let found := IdentPort.ofCommand pid range host.listing
    let records := found.notices.map IdentPort.Notice.record
    match found.port with
    | .ok port => portAnswer records port
    | .error _ => ⟨Answer.faultCode, [], records⟩

/-- Lets a process go.  The command never traces the process itself, so every call
on it is refused. -/
def resume (host : Host) (pid : Pid) (delay : UInt32) : Answer :=
  let refused := some (Refusal.detach .noProcess)
  match Release.run ⟨pid, none, refused, refused, some Errno.noProcess.text, [], []⟩ delay with
  | .ok report => ⟨0, [], report.notices.map (Release.Notice.record host.inSeconds)⟩
  | .error _ => .faulted []

def debuggerPresent (host : Host) : Answer :=
  let cached := Presence.fresh.cache host.ownStatus
  ⟨0, [if cached.presence.get then "true" else "false"],
    cached.notices.map Presence.Notice.record⟩

def scope (host : Host) (settings : Settings) : Answer :=
  let decision := Scope.allows settings false host.scope
  ⟨if decision.allowed then 0 else 1, [if decision.allowed then "allowed" else "denied"],
    decision.warnings.map Scope.Warning.record⟩

def perform (host : Host) (settings : Settings) : Command -> Answer
  | .inspect pid => inspect host settings.logging pid
  | .identPort pid range byFiles => identPort host pid range byFiles
  | .resume pid delay => resume host pid delay
  | .debuggerPresent => debuggerPresent host
  | .scope => scope host settings

def Command.pid? : Command -> Option Pid
  | inspect pid | identPort pid .. | resume pid _ => some pid
  | debuggerPresent | scope => none

def Command.imagePath? (files : ProcessFiles) : Command -> Option String
  | inspect pid => do
      let maps ← (Entry.readMaps pid files.maps).toOption
      let m ← MemoryMap.firstExecutable maps
      return m.pathname
  | _ => none

/-!
## The whole program
-/

structure Outcome where
  code : Nat
  out : String
  err : String
  deriving DecidableEq, Repr

def unlines (lines : List String) : String :=
  String.join (lines.map (· ++ "\n"))

def Invocation.filterText (i : Invocation) (fromEnvironment : Option String) : String :=
  if i.verbose then "debug"
  else (i.filter.or fromEnvironment).getD "info"

def run (host : Host) (fromEnvironment : Option String) (arguments : List String) :
    Outcome :=
  match Request.ofArguments arguments with
  | .mistake => ⟨Answer.mistake.code, "", ""⟩
  | .help => ⟨0, "", ""⟩
  | .version name => ⟨0, unlines [name ++ " " ++ programVersion], ""⟩
  | .run i =>
      let (complaints, filter) := Filter.parse (i.filterText fromEnvironment).toList
      let answer := perform host ⟨i.trace, i.logging, false⟩ i.command
      let heard := answer.records.filter filter.passes
      ⟨answer.code, unlines answer.lines, unlines (complaints ++ heard.map recordLine)⟩

end CommandLine
end EntryStop
