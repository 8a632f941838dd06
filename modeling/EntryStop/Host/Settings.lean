/-!
# Settings

The switches that hold for the whole program.
-/

namespace EntryStop

structure Settings where
  traceChildren : Bool
  logging : Bool
  /-- The program replays recorded runs.  Only then a restriction on tracing is
  told. -/
  replay : Bool
  deriving DecidableEq, Repr

def Settings.standard : Settings := ⟨true, false, false⟩

end EntryStop
