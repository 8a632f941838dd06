import EntryStop.Debugger.Tracer
import EntryStop.Host.ProcessFiles
import EntryStop.Log

/-!
# Whether a debugger is present

The program asks often whether it is being debugged, so the answer is taken once
from its status file and kept.  A debugger that attaches later is not noticed.
-/

namespace EntryStop

structure Presence where
  cached : Bool
  present : Bool
  deriving DecidableEq, Repr

namespace Presence

inductive Notice where
  | statusMissing
  deriving DecidableEq, Repr

def Notice.record : Notice -> Log.Record
  | statusMissing =>
      ⟨.warn, .debugger, "Couldn't open " ++ ProcessFiles.statusPath none⟩

def fresh : Presence := ⟨false, false⟩

def isTraced (status : List Char) : Bool :=
  ((Debugger.tracerPid status).getD 0) != 0

structure Cached where
  presence : Presence
  asked : Bool
  notices : List Notice
  deriving DecidableEq, Repr

/-- Takes the answer from a status text.  Only the first attempt has an effect. -/
def cache (p : Presence) (status : Option (List Char)) : Cached :=
  if p.cached then ⟨p, false, []⟩
  else
    match status with
    | some status => ⟨⟨true, isTraced status⟩, true, []⟩
    | none => ⟨⟨true, p.present⟩, true, [.statusMissing]⟩

def get (p : Presence) : Bool := p.present

/-!
## Several questions
-/

inductive Request where
  | cache (status : Option (List Char))
  | get
  deriving DecidableEq, Repr

structure Reply where
  present : Bool
  asked : Bool
  notices : List Notice
  deriving DecidableEq, Repr

def answer (p : Presence) : Request -> Presence × Reply
  | .cache status =>
      let c := p.cache status
      (c.presence, ⟨c.presence.get, c.asked, c.notices⟩)
  | .get => (p, ⟨p.get, false, []⟩)

def answerAll (p : Presence) : List Request -> List Reply
  | [] => []
  | r :: rs =>
      let (p, reply) := p.answer r
      reply :: answerAll p rs

theorem cache_of_cached {p : Presence} (h : p.cached = true)
    (status : Option (List Char)) : p.cache status = ⟨p, false, []⟩ := by
  simp [cache, h]

end Presence
end EntryStop
