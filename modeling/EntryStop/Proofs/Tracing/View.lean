import EntryStop.Proofs.Tracing.Notice
import EntryStop.Tracing.Attach

/-!
# Traced children without the details

Details are told only if they are asked for.  A view of a traced child leaves them
out.  It keeps the child, the stages entered, what the waits have seen, the calls
without the probes, and the notices that are more than details.  A law about views
holds however much is told.
-/

namespace EntryStop

structure View extends Child where
  stages : List Stage
  sightings : List Sighting
  actions : List Call
  notices : List Notice

def Tracee.view (t : Tracee) : View :=
  { t.toChild with
    stages := t.stages
    sightings := t.sightings
    actions := t.actions
    notices := Notice.essential t.notices }

namespace View

def ofChild (c : Child) : View :=
  { c with stages := [], sightings := [], actions := [], notices := [] }

def enter (v : View) (stage : Stage) : View :=
  { v with stages := v.stages ++ [stage] }

def tell (v : View) (notice : Notice) : View :=
  { v with notices := v.notices ++ [notice] }

def act (v : View) (call : Call) : View :=
  { v with actions := v.actions ++ [call] }

def await (v : View) (timeout : Word) : View :=
  let w := (v.outlooks.headD .silent).wait timeout
  { v with
    outlooks := w.rest :: v.outlooks.tail
    sightings := v.sightings ++ [w.sighting] }

def tryCont (v : View) : View :=
  { v.act .cont with
    refusals := { v.refusals with cont := v.refusals.cont.tail } }

def goOn (v : View) : View :=
  { v.tryCont with outlooks := v.outlooks.tail }

def tryStore (v : View) (addr : Address) (word : Word) : View :=
  { v.act (.writeWord addr word) with
    refusals := { v.refusals with writeWord := v.refusals.writeWord.tail } }

def store (v : View) (addr : Address) (word : Word) : View :=
  { v.tryStore addr word with memory := v.memory.set addr word }

def moveTo (v : View) (pointer : Address) : View :=
  { v.act (.setRegisters pointer) with pointer }

end View

/-!
## What each record does to the view
-/

namespace Tracee

theorem view_meet (logging : Bool) (c : Child) :
    (meet logging c).view = View.ofChild c := rfl

theorem view_told {n : Notice} (h : n.isDetail = false) (t : Tracee) :
    (t.told n).view = t.view.tell n := by
  simp only [view, told, View.tell, actions, Notice.essential_concat h]

theorem view_told_of_isDetail {n : Notice} (h : n.isDetail = true) (t : Tracee) :
    (t.told n).view = t.view := by
  simp only [view, told, actions, Notice.essential_concat_of_isDetail h]

theorem view_detailed {n : Notice} (h : n.isDetail = true) (t : Tracee) :
    (t.detailed n).view = t.view := by
  unfold detailed
  split
  · exact view_told_of_isDetail h t
  · rfl

theorem view_entered (t : Tracee) (stage : Stage) :
    (t.entered stage).view = t.view.enter stage :=
  view_detailed rfl _

theorem view_called {call : Call} (h : call.isProbe = false) (t : Tracee) :
    (t.called call).view = t.view.act call := by
  have hactions : (t.called call).actions = t.actions ++ [call] := by
    simp [actions, called, h]
  simp only [view, View.act, hactions]
  rfl

theorem view_waited (t : Tracee) (timeout : Word) :
    (t.waited ((t.outlooks.headD .silent).wait timeout)).view =
      t.view.await timeout := by
  have hactions :
      (t.waited ((t.outlooks.headD .silent).wait timeout)).actions = t.actions := by
    have hprobes (taken : List Probe) :
        (taken.map Call.probe).filter (fun c => !c.isProbe) = [] := by
      simp [Call.isProbe]
    simp only [actions, waited, List.filter_append, hprobes, List.append_nil]
  simp only [view, View.await, hactions]
  rfl

end Tracee
end EntryStop
