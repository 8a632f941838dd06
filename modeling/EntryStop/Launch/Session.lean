import EntryStop.Debugger.Release
import EntryStop.Launch.Child
import EntryStop.Tracing.Attach

/-!
# Launching a child under trace

A parent stops a forked child at the entry of its program, looks at it, and lets it
go.  What the parent sees follows from the steps of the child.
-/

namespace EntryStop
namespace Launch

/-!
## The child as its tracer meets it
-/

def imageAfter (s : Setting) : Event -> Program
  | .starts program _ | .hits program _ => program
  | _ => s.parent

def sourceOf (parse : Image.Parser) (p : Program) : Entry.Source where
  maps := .ok p.maps
  file path := if path = p.path then .ok p.image else .error .notFound
  parse := parse

def entryOf (s : Setting) (pid : Pid) (p : Program) : Option Address :=
  (Entry.resolve false pid (sourceOf s.parse p)).2.toOption

/-- Why the trap cannot be taken out at the third stop, if it cannot: the child has
another program by then, or is not stopped at all. -/
def restoreRefusal : Event -> Option String
  | .starts .. => some (Refusal.writeWord .io)
  | .ends _ | .lingers => some (Refusal.writeWord .noProcess)
  | .stops .. | .hits .. => none

structure Courses where
  first : Course
  second : Course
  third : Course

def courses (s : Setting) (steps : List Step) : Courses :=
  let first := course s false .forked steps
  let second := first.next s
  ⟨first, second, second.next s⟩

def child (s : Setting) (pid : Pid) (cs : Courses) : Child :=
  let image := imageAfter s cs.second.event
  let entry := (entryOf s pid image).getD 0
  let writeWord : Schedule := ⟨[none, restoreRefusal cs.third.event], none⟩
  let memory := (image.word? entry).toList.map fun word => (entry, word)
  { Child.ofMemory (.ofList memory) writeWord with
    pid
    outlooks :=
      [cs.first.event.outlook pid false, cs.second.event.outlook pid true,
        cs.third.event.outlook pid true]
    pointer :=
      match cs.third.event with
      | .hits .. => Arch.x86_64.afterTrap entry
      | _ => 0
    source := .files (sourceOf s.parse image) }

/-!
## Stopping it
-/

structure Stopped where
  answer : Except Fault Bool
  tracee : Tracee
  course : Course
  told : Option (List Notice)

def concat (a b : Option (List Notice)) : Option (List Notice) :=
  match a, b with
  | none, b => b
  | a, none => a
  | some a, some b => some (a ++ b)

def Courses.after (cs : Courses) : (continued : Nat) -> Course × Option (List Notice)
  | 0 => (cs.first, cs.first.told)
  | 1 => (cs.second, concat cs.first.told cs.second.told)
  | _ => (cs.third, concat (concat cs.first.told cs.second.told) cs.third.told)

def stop (s : Setting) (pid : Pid) (steps : List Step) : Stopped :=
  let cs := courses s steps
  let (answer, t) := Attach.stopAtMain .x86_64 s.enabled s.logging (child s pid cs)
  let (course, told) := cs.after (t.calls.count .cont)
  ⟨answer, t, course, told⟩

namespace Stopped

def isHeld (c : Stopped) : Bool :=
  c.course.traced && c.course.event.isStop

def atEntry (s : Setting) (c : Stopped) : Bool :=
  entryOf s c.tracee.pid (imageAfter s c.course.event) == some c.tracee.pointer

def trapRemoved (s : Setting) (c : Stopped) : Bool :=
  let image := imageAfter s c.course.event
  match entryOf s c.tracee.pid image with
  | none => false
  | some entry =>
      match image.word? entry, c.tracee.memory.get? entry with
      | some saved, some word => word != Arch.x86_64.patch saved
      | _, _ => false

/-- A breakpoint at the distance `offset` from the entry reads, patches and puts
back the word that is there. -/
def poked (s : Setting) (c : Stopped) (offset : Word) : Bool :=
  let image := imageAfter s c.course.event
  match entryOf s c.tracee.pid image with
  | none => false
  | some entry =>
      let addr := entry + offset
      match (c.tracee.memory.get? addr).or (image.word? addr) with
      | none => false
      | some word =>
          let memory := c.tracee.memory.set addr word
          let t := { c.tracee with refusals := .none, memory }
          match Breakpoint.inject .x86_64 addr t with
          | .error .. => false
          | .ok bp t =>
              match bp.restore t with
              | .ok _ t' =>
                  bp.saved == word &&
                    t.memory.get? addr == some (Arch.x86_64.patch word) &&
                    t'.memory.get? addr == some word
              | .error .. => false

end Stopped

/-!
## Letting it go
-/

inductive Helper where
  | attach
  | kill
  deriving DecidableEq, Repr

def statusText (tracer : Pid) : List Char :=
  ("Name:\tchild\nTracerPid:\t" ++ tracer.text ++ "\n").toList

def Helper.statuses (pid : Pid) : Helper -> List (Option (List Char))
  | attach => [some (statusText 0), some (statusText (pid + 1))]
  | kill => [some (statusText 0), none]

def target (c : Stopped) (helper : Option Helper) : Release.Target :=
  let pid := c.tracee.pid
  let refusal (e : Errno) (wording : Errno -> String) :=
    if c.isHeld then none else some (wording e)
  { pid
    pointer := if c.isHeld then some c.tracee.pointer else none
    detach := refusal .noProcess Refusal.detach
    detachStopped := refusal .noProcess Refusal.detach
    sendContinue := if helper = some .kill then some Errno.noProcess.text else none
    statuses := (helper.map (Helper.statuses pid)).getD []
    clock := [some 1, some 1, some 1] }

def release (c : Stopped) (helper : Option Helper) (delay : UInt32) :
    Except Fault Release.Report :=
  Release.run (target c helper) delay

def leftStopped (c : Stopped) (helper : Option Helper) : Bool :=
  c.isHeld && helper == some .attach

def ending? (s : Setting) (c : Stopped) : Option Ending :=
  c.course.event.ending? s

end Launch
end EntryStop
