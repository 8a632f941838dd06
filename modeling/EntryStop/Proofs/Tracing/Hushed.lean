import EntryStop.Proofs.Program.Resolve
import EntryStop.Tracing.Attach

/-!
# Tracing with the details left out

A computation on a traced child is indifferent to details if it is the same to leave them
out before it or after it.  It then answers alike and does the same to the child, however
much is told.  There is one rule for each way of combining computations and one for each
call.
-/

namespace EntryStop

def Tracee.hushed (t : Tracee) : Tracee :=
  { t with
    logging := false
    notices := Notice.essential t.notices }

namespace Tracee

theorem hushed_meet (logging : Bool) (c : Child) :
    (meet logging c).hushed = meet false c := rfl

theorem hushed_told {n : Notice} (h : n.isDetail = false) (t : Tracee) :
    (t.told n).hushed = t.hushed.told n := by
  simp only [hushed, told, Notice.essential_concat h]

theorem hushed_told_of_isDetail {n : Notice} (h : n.isDetail = true) (t : Tracee) :
    (t.told n).hushed = t.hushed := by
  simp only [hushed, told, Notice.essential_concat_of_isDetail h]

theorem hushed_detailed {n : Notice} (h : n.isDetail = true) (t : Tracee) :
    (t.detailed n).hushed = t.hushed.detailed n := by
  -- A tracer that is not asked for details tells none, so the right side is the child itself.
  change (t.detailed n).hushed = t.hushed
  unfold detailed
  split
  · exact hushed_told_of_isDetail h t
  · rfl

theorem hushed_entered (t : Tracee) (stage : Stage) :
    (t.entered stage).hushed = t.hushed.entered stage :=
  hushed_detailed rfl _

end Tracee

namespace Tracing

def hush {ε α : Type} : EStateM.Result ε Tracee α -> EStateM.Result ε Tracee α
  | .ok a t => .ok a t.hushed
  | .error e t => .error e t.hushed

def Indifferent {ε α : Type} (m : Tracing ε α) : Prop :=
  forall t : Tracee, m t.hushed = hush (m t)

namespace Indifferent

variable {ε δ α β : Type}

/-!
## Combinations
-/

theorem pure (a : α) : Indifferent (Pure.pure a : Tracing ε α) :=
  fun _ => rfl

theorem throw (e : ε) : Indifferent (MonadExcept.throw e : Tracing ε α) :=
  fun _ => rfl

theorem bind {m : Tracing ε α} {f : α -> Tracing ε β}
    (hm : Indifferent m) (hf : forall a, Indifferent (f a)) :
    Indifferent (m >>= f) := by
  intro t
  show EStateM.bind m f t.hushed = hush (EStateM.bind m f t)
  unfold EStateM.bind
  rw [hm t]
  cases m t with
  | ok a t' => exact hf a t'
  | error e t' => rfl

theorem adaptExcept {m : Tracing ε α} (h : Indifferent m) (f : ε -> δ) :
    Indifferent (EStateM.adaptExcept f m) := by
  intro t
  unfold EStateM.adaptExcept
  rw [h t]
  cases m t with
  | ok a t' => rfl
  | error e t' => rfl

theorem onRefusal {call : Tracing ε α} {handler : ε -> Tracing δ α}
    (hcall : Indifferent call) (hhandler : forall e, Indifferent (handler e)) :
    Indifferent (Attach.onRefusal call handler) := by
  intro t
  unfold Attach.onRefusal
  rw [hcall t]
  cases call t with
  | ok a t' => rfl
  | error e t' => exact hhandler e t'

theorem conditional {p : Prop} [Decidable p] {m : Tracing ε PUnit}
    {f : PUnit -> Tracing ε β} (hm : Indifferent m) (hf : forall u, Indifferent (f u)) :
    Indifferent (if p then m >>= f else f ⟨⟩) := by
  split
  · exact hm.bind hf
  · exact hf _

/-!
## Records
-/

theorem tell {n : Notice} (h : n.isDetail = false) :
    Indifferent (Tracing.tell n : Tracing ε Unit) := by
  intro t
  show EStateM.Result.ok () (t.hushed.told n) = .ok () (t.told n).hushed
  rw [Tracee.hushed_told h]

theorem detail {n : Notice} (h : n.isDetail = true) :
    Indifferent (Tracing.detail n : Tracing ε Unit) := by
  intro t
  show EStateM.Result.ok () (t.hushed.detailed n) = .ok () (t.detailed n).hushed
  rw [Tracee.hushed_detailed h]

theorem enter (stage : Stage) :
    Indifferent (Tracing.enter stage : Tracing ε Unit) := by
  intro t
  show EStateM.Result.ok () (t.hushed.entered stage) = .ok () (t.entered stage).hushed
  rw [Tracee.hushed_entered]

theorem wait (timeout : Word) :
    Indifferent (Tracing.wait timeout : Tracing ε Sighting) :=
  fun _ => rfl

/-!
## Calls

The child answers a call.  What has been told has no part in its answer.
-/

theorem traceExec : Indifferent Tracing.traceExec := by
  intro t
  cases hanswer : t.refusals.traceExec with
  | none =>
      simp only [Tracing.traceExec, Tracee.called, Tracee.hushed, hush, hanswer]
  | some reason =>
      simp only [Tracing.traceExec, Tracee.called, Tracee.hushed, hush, hanswer]

theorem cont : Indifferent Tracing.cont := by
  intro t
  cases hanswer : t.refusals.cont.head with
  | none => simp only [Tracing.cont, Tracee.called, Tracee.hushed, hush, hanswer]
  | some reason => simp only [Tracing.cont, Tracee.called, Tracee.hushed, hush, hanswer]

theorem readWord (addr : Address) : Indifferent (Tracing.readWord addr) := by
  intro t
  cases hanswer : t.refusals.readWord with
  | none =>
      cases hword : t.memory.get? addr with
      | none =>
          simp only [Tracing.readWord, Tracee.called, Tracee.hushed, hush, hanswer, hword]
      | some word =>
          simp only [Tracing.readWord, Tracee.called, Tracee.hushed, hush, hanswer, hword]
  | some reason =>
      simp only [Tracing.readWord, Tracee.called, Tracee.hushed, hush, hanswer]

theorem writeWord (addr : Address) (word : Word) :
    Indifferent (Tracing.writeWord addr word) := by
  intro t
  cases hanswer : t.refusals.writeWord.head with
  | none =>
      simp only [Tracing.writeWord, Tracee.called, Tracee.hushed, hush, hanswer]
  | some reason =>
      simp only [Tracing.writeWord, Tracee.called, Tracee.hushed, hush, hanswer]

theorem getRegisters : Indifferent Tracing.getRegisters := by
  intro t
  cases hanswer : t.refusals.getRegisters with
  | none =>
      simp only [Tracing.getRegisters, Tracee.called, Tracee.hushed, hush, hanswer]
  | some reason =>
      simp only [Tracing.getRegisters, Tracee.called, Tracee.hushed, hush, hanswer]

theorem setRegisters (pointer : Address) : Indifferent (Tracing.setRegisters pointer) := by
  intro t
  cases hanswer : t.refusals.setRegisters with
  | none =>
      simp only [Tracing.setRegisters, Tracee.called, Tracee.hushed, hush, hanswer]
  | some reason =>
      simp only [Tracing.setRegisters, Tracee.called, Tracee.hushed, hush, hanswer]

theorem resolveEntry : Indifferent Tracing.resolveEntry := by
  intro t
  cases hsource : t.source with
  | answer entry =>
      cases entry with
      | ok entry =>
          simp only [Tracing.resolveEntry, Tracee.called, Tracee.hushed, hush, hsource]
      | error reason =>
          simp only [Tracing.resolveEntry, Tracee.called, Tracee.hushed, hush, hsource]
  | files source =>
      have hsilent : Entry.resolve false t.pid source =
          ([], (Entry.resolve false t.pid source).2) :=
        Prod.ext (Entry.resolve_silent _ _) rfl
      have hdetails := Entry.essential_resolve t.logging t.pid source
      have hanswer := Entry.resolve_answer t.logging t.pid source
      rw [← hanswer] at hsilent
      simp only [Tracing.resolveEntry, Tracee.called, Tracee.hushed, hsource, hsilent]
      cases hresolve : Entry.resolve t.logging t.pid source with
      | mk told entry =>
          rw [hresolve] at hdetails
          have htold := Notice.essential_append_of_details hdetails t.notices
          cases entry with
          | ok entry => simp only [hush, Tracee.hushed, htold, List.append_nil]
          | error failure => simp only [hush, Tracee.hushed, htold, List.append_nil]

end Indifferent
end Tracing
end EntryStop
