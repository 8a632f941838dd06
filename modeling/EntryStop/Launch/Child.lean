import EntryStop.Host.Files
import EntryStop.Launch.Program
import EntryStop.Tracing.Ending
import EntryStop.Tracing.Refusal

/-!
# Forked children

A child carries out steps between its fork and its program.  Run from one point on
it gets to the next event that its parent can notice.
-/

namespace EntryStop
namespace Launch

/-- A step of a child.  The end of the hook is a step of its own, because the child
stops inside the hook. -/
inductive Step where
  | hook
  | hookReturn
  | traceMe
  | raise (signal : Signal)
  | sleep
  | exec (path : String) (arguments : List String)
  | exit (code : UInt8)
  deriving DecidableEq, Repr

/-- What all children have in common: the settings that they inherit, the files and the
directory that they see, the programs that they find, and the program that they are forked
from.  What programs do is not known here; `ending` tells how one ends of itself that is
started at a path with arguments and ignores some signals, if it does. -/
structure Setting where
  enabled : Bool
  logging : Bool
  files : FileTree
  current : List String
  programs : List Program
  ending : Program -> List Signal -> String -> List String -> Option Ending
  parent : Program
  parse : Image.Parser

namespace Setting

def canonical? (s : Setting) (path : String) : Option String := do
  let names ← (s.files.resolve true s.current path).toOption
  if (s.files.at? names).isSome then return FileTree.pathOf names else none

def find (s : Setting) (path : String) : Option Program := do
  let found ← s.canonical? path
  s.programs.find? fun p => p.path == found

end Setting

/-!
## Signals
-/

structure Handling where
  ignored : List Signal
  caught : List Signal
  deriving DecidableEq, Repr

namespace Handling

/-- The handling of a forked child.  Like its parent it ignores that a pipe has no reader, and
looks into the first fault of memory of each kind. -/
def forked : Handling := ⟨[.pipe], [.segv, .bus]⟩

def receive (h : Handling) (signal : Signal) : Signal.Disposition × Handling :=
  if h.ignored.contains signal then (.ignore, h)
  else if h.caught.contains signal then
    (.ignore, { h with caught := h.caught.filter (· != signal) })
  else (signal.disposition, h)

end Handling

/-!
## Courses
-/

/-- What becomes of a child: it stops with steps left, stops at the start of a
program, stops at the trap on the program's entry, ends, or shows nothing.  With a program
stands how it ends, if it does. -/
inductive Event where
  | stops (signal : Signal) (handling : Handling) (steps : List Step)
  | starts (program : Program) (ending : Option Ending)
  | hits (program : Program) (ending : Option Ending)
  | ends (ending : Ending)
  | lingers

structure Course where
  event : Event
  told : Option (List Notice)
  traced : Bool

def stepsExhausted : UInt8 := 127

def hookNotices (logging : Bool) : List Notice :=
  if logging then [.hookEntered, .hookTraced, .hookResumed] else []

def hookRefusal (logging : Bool) : List Notice :=
  (if logging then [.hookEntered] else []) ++
    [.hookFailed (Refusal.traceMe .notPermitted)]

def Course.telling (notices : List Notice) (c : Course) : Course :=
  { c with told := some (notices ++ c.told.getD []) }

def course (s : Setting) : (traced : Bool) -> Handling -> List Step -> Course
  | traced, _, [] => ⟨.ends (.exited stepsExhausted), none, traced⟩
  | traced, h, .hook :: steps =>
      if !s.enabled then (course s traced h steps).telling []
      else if traced then (course s traced h steps).telling (hookRefusal s.logging)
      else ⟨.stops .stop h (.hookReturn :: steps), none, true⟩
  | traced, h, .hookReturn :: steps =>
      (course s traced h steps).telling (hookNotices s.logging)
  | _, h, .traceMe :: steps => course s true h steps
  | traced, h, .raise signal :: steps =>
      if signal = .kill then ⟨.ends (.killed signal), none, traced⟩
      else if traced then ⟨.stops signal h steps, none, traced⟩
      else
        match h.receive signal with
        | (.terminate, _) | (.dump, _) => ⟨.ends (.killed signal), none, traced⟩
        | (.halt, _) => ⟨.lingers, none, traced⟩
        | (.ignore, h) => course s traced h steps
  | traced, _, .sleep :: _ => ⟨.lingers, none, traced⟩
  | traced, h, .exec path arguments :: steps =>
      match s.find path with
      | none => course s traced h steps
      | some program =>
          let ending := s.ending program h.ignored path arguments
          let event : Event :=
            if traced then .starts program ending
            else
              match ending with
              | some ending => .ends ending
              | none => .lingers
          ⟨event, none, traced⟩
  | traced, _, .exit code :: _ => ⟨.ends (.exited code), none, traced⟩

def endingOf? (s : Setting) : Handling -> List Step -> Option Ending
  | _, [] => some (.exited stepsExhausted)
  | h, .hook :: steps => if s.enabled then none else endingOf? s h steps
  | h, .hookReturn :: steps => endingOf? s h steps
  | h, .traceMe :: steps => endingOf? s h steps
  | h, .raise signal :: steps =>
      match h.receive signal with
      | (.terminate, _) | (.dump, _) => some (.killed signal)
      | (.halt, _) => none
      | (.ignore, h) => endingOf? s h steps
  | h, .sleep :: steps => endingOf? s h steps
  | h, .exec path arguments :: steps =>
      match s.find path with
      | none => endingOf? s h steps
      | some program => s.ending program h.ignored path arguments
  | _, .exit code :: _ => some (.exited code)

namespace Event

/-- The status that an event gives the parent.  The start of a program is reported
as such only if the parent has asked for it. -/
def status (pid : Pid) (asked : Bool) : Event -> Option Status
  | stops signal _ _ => some (.stopped pid signal)
  | starts .. =>
      some (if asked then .event pid .trap Status.execEvent else .stopped pid .trap)
  | hits .. => some (.stopped pid .trap)
  | ends ending => some (ending.status pid)
  | lingers => none

def outlook (pid : Pid) (asked : Bool) (e : Event) : Outlook :=
  match e.status pid asked with
  | none => ⟨[], [], [some 1]⟩
  | some status => ⟨[some status], [], [some 1]⟩

def isStop : Event -> Bool
  | stops .. | starts .. | hits .. => true
  | ends _ | lingers => false

def ending? (s : Setting) : Event -> Option Ending
  | stops _ h steps => endingOf? s h steps
  | starts _ ending | hits _ ending => ending
  | ends ending => some ending
  | lingers => none

end Event

/-- The course of a child that is continued after a stop.  A started program runs
into the trap on its entry; a child that is not stopped goes no further. -/
def Course.next (s : Setting) (c : Course) : Course :=
  match c.event with
  | .stops _ h steps => course s c.traced h steps
  | .starts program ending => ⟨.hits program ending, none, c.traced⟩
  | .hits .. | .ends _ | .lingers => { c with told := none }

end Launch
end EntryStop
