import EntryStop.Proofs.Program.Resolve
import EntryStop.Proofs.Tracing.View

/-!
# How tracing ends

A judgement about computations on a traced child: from every child with a given
view, the computation ends with an answer in one way or with an error in another.
There is one rule for each way of combining computations and one for each call.
-/

namespace EntryStop

def Child.entry (c : Child) : Except (Failure Entry.Error) Address :=
  match c.source with
  | .answer (.ok entry) => .ok entry
  | .answer (.error reason) => .error (.reported (.unknown reason))
  | .files source => (Entry.resolve false c.pid source).2

namespace Tracing

def Ends {ε α : Type} (m : Tracing ε α) (v : View)
    (done : α -> View -> Prop) (failed : ε -> View -> Prop) : Prop :=
  forall t : Tracee, t.view = v ->
    match m t with
    | .ok a t' => done a t'.view
    | .error e t' => failed e t'.view

namespace Ends

variable {ε δ α β : Type} {v : View}

theorem exists_ok {m : Tracing ε α} {done : α -> View -> Prop}
    (h : Ends m v done (fun _ _ => False)) {t : Tracee} (ht : t.view = v) :
    exists a t', m t = .ok a t' ∧ done a t'.view := by
  have hm := h t ht
  cases hmt : m t with
  | ok a t' =>
      rw [hmt] at hm
      exact ⟨a, t', rfl, hm⟩
  | error e t' =>
      rw [hmt] at hm
      exact hm.elim

/-!
## Combinations
-/

theorem weaken {m : Tracing ε α} {done done' : α -> View -> Prop}
    {failed failed' : ε -> View -> Prop}
    (h : Ends m v done failed)
    (hdone : forall a v', done a v' -> done' a v')
    (hfailed : forall e v', failed e v' -> failed' e v') :
    Ends m v done' failed' := by
  intro t ht
  have hm := h t ht
  cases hmt : m t with
  | ok a t' =>
      rw [hmt] at hm
      exact hdone a t'.view hm
  | error e t' =>
      rw [hmt] at hm
      exact hfailed e t'.view hm

theorem pure {done : α -> View -> Prop} {failed : ε -> View -> Prop} {a : α}
    (h : done a v) : Ends (Pure.pure a) v done failed := by
  intro t ht
  subst ht
  exact h

theorem throw {done : α -> View -> Prop} {failed : ε -> View -> Prop} {e : ε}
    (h : failed e v) : Ends (MonadExcept.throw e) v done failed := by
  intro t ht
  subst ht
  exact h

theorem bind {m : Tracing ε α} {f : α -> Tracing ε β}
    {done : β -> View -> Prop} {failed : ε -> View -> Prop}
    (h : Ends m v (fun a v' => Ends (f a) v' done failed) failed) :
    Ends (m >>= f) v done failed := by
  intro t ht
  have hm := h t ht
  show match EStateM.bind m f t with
    | .ok b t' => done b t'.view
    | .error e t' => failed e t'.view
  unfold EStateM.bind
  cases hmt : m t with
  | ok a t' =>
      rw [hmt] at hm
      exact hm t' rfl
  | error e t' =>
      rw [hmt] at hm
      exact hm

theorem get {f : Tracee -> Tracing ε α}
    {done : α -> View -> Prop} {failed : ε -> View -> Prop}
    (h : forall t : Tracee, t.view = v -> Ends (f t) v done failed) :
    Ends (MonadState.get >>= f) v done failed := by
  intro t ht
  exact h t ht t ht

theorem adaptExcept {m : Tracing ε α} {f : ε -> δ}
    {done : α -> View -> Prop} {failed : δ -> View -> Prop}
    (h : Ends m v done (fun e v' => failed (f e) v')) :
    Ends (EStateM.adaptExcept f m) v done failed := by
  intro t ht
  have hm := h t ht
  unfold EStateM.adaptExcept
  cases hmt : m t with
  | ok a t' =>
      rw [hmt] at hm
      exact hm
  | error e t' =>
      rw [hmt] at hm
      exact hm

theorem onRefusal {call : Tracing ε α} {handler : ε -> Tracing δ α}
    {done : α -> View -> Prop} {failed : δ -> View -> Prop}
    (h : Ends call v done (fun e v' => Ends (handler e) v' done failed)) :
    Ends (Attach.onRefusal call handler) v done failed := by
  intro t ht
  have hm := h t ht
  unfold Attach.onRefusal
  cases hmt : call t with
  | ok a t' =>
      rw [hmt] at hm
      exact hm
  | error e t' =>
      rw [hmt] at hm
      exact hm t' rfl

/-!
## Computations that are known to end in one way
-/

theorem of_ok {m : Tracing ε α} {done : α -> View -> Prop}
    {failed : ε -> View -> Prop} {a : α} {v' : View}
    (hm : forall t : Tracee, t.view = v ->
      exists t' : Tracee, m t = .ok a t' ∧ t'.view = v')
    (h : done a v') : Ends m v done failed := by
  intro t ht
  rcases hm t ht with ⟨t', hmt, hview⟩
  rw [hmt]
  show done a t'.view
  rw [hview]
  exact h

theorem of_error {m : Tracing ε α} {done : α -> View -> Prop}
    {failed : ε -> View -> Prop} {e : ε} {v' : View}
    (hm : forall t : Tracee, t.view = v ->
      exists t' : Tracee, m t = .error e t' ∧ t'.view = v')
    (h : failed e v') : Ends m v done failed := by
  intro t ht
  rcases hm t ht with ⟨t', hmt, hview⟩
  rw [hmt]
  show failed e t'.view
  rw [hview]
  exact h

/-!
## Records
-/

theorem tell {done : Unit -> View -> Prop} {failed : ε -> View -> Prop}
    {n : Notice} (hn : n.isDetail = false) (h : done () (v.tell n)) :
    Ends (Tracing.tell n) v done failed := by
  refine of_ok (fun t ht => ⟨t.told n, rfl, ?_⟩) h
  rw [Tracee.view_told hn, ht]

theorem detail {done : Unit -> View -> Prop} {failed : ε -> View -> Prop}
    {n : Notice} (hn : n.isDetail = true) (h : done () v) :
    Ends (Tracing.detail n) v done failed := by
  refine of_ok (fun t ht => ⟨t.detailed n, rfl, ?_⟩) h
  rw [Tracee.view_detailed hn, ht]

theorem enter {done : Unit -> View -> Prop} {failed : ε -> View -> Prop}
    {stage : Stage} (h : done () (v.enter stage)) :
    Ends (Tracing.enter stage) v done failed := by
  refine of_ok (fun t ht => ⟨t.entered stage, rfl, ?_⟩) h
  rw [Tracee.view_entered, ht]

theorem wait {done : Sighting -> View -> Prop} {failed : ε -> View -> Prop}
    {timeout : Word} {s : Sighting}
    (hs : ((v.outlooks.headD .silent).wait timeout).sighting = s)
    (h : done s (v.await timeout)) :
    Ends (Tracing.wait timeout) v done failed := by
  refine of_ok (fun t ht => ⟨t.waited ((t.outlooks.headD .silent).wait timeout), ?_, ?_⟩) h
  · subst ht
    rw [← hs]
    rfl
  · rw [Tracee.view_waited, ht]

/-!
## Calls

A call on the child has two outcomes, and the child itself decides between them.
-/

theorem answered {m : Tracing ε α} {done : α -> View -> Prop}
    {failed : ε -> View -> Prop} {answer : Option ε} {a : α} {granted refused : View}
    (hm : forall t : Tracee, t.view = v ->
      exists t' t'' : Tracee,
        (answer = none -> m t = .ok a t') ∧
        (forall reason, answer = some reason -> m t = .error reason t'') ∧
        t'.view = granted ∧ t''.view = refused)
    (hgranted : answer = none -> done a granted)
    (hrefused : forall reason, answer = some reason -> failed reason refused) :
    Ends m v done failed := by
  intro t ht
  rcases hm t ht with ⟨t', t'', hok, herror, hview', hview''⟩
  cases hanswer : answer with
  | none =>
      rw [hok hanswer]
      show done a t'.view
      rw [hview']
      exact hgranted hanswer
  | some reason =>
      rw [herror reason hanswer]
      show failed reason t''.view
      rw [hview'']
      exact hrefused reason hanswer

theorem traceExec {done : Unit -> View -> Prop} {failed : String -> View -> Prop}
    (hgranted : v.refusals.traceExec = none -> done () (v.act .traceExec))
    (hrefused : forall reason, v.refusals.traceExec = some reason ->
      failed reason (v.act .traceExec)) :
    Ends Tracing.traceExec v done failed := by
  refine answered (fun t ht => ?_) hgranted hrefused
  subst ht
  have hview : (t.called .traceExec).view = t.view.act .traceExec :=
    Tracee.view_called rfl t
  refine ⟨_, _, fun hanswer => ?_, fun reason hanswer => ?_, hview, hview⟩
  · change t.refusals.traceExec = none at hanswer
    simp [Tracing.traceExec, Tracee.called, hanswer]
  · change t.refusals.traceExec = some reason at hanswer
    simp [Tracing.traceExec, Tracee.called, hanswer]

theorem cont {done : Unit -> View -> Prop} {failed : String -> View -> Prop}
    (hgranted : v.refusals.cont.head = none -> done () v.goOn)
    (hrefused : forall reason, v.refusals.cont.head = some reason ->
      failed reason v.tryCont) :
    Ends Tracing.cont v done failed := by
  refine answered (fun t ht => ?_) hgranted hrefused
  subst ht
  have hview : (t.called .cont).view = t.view.act .cont :=
    Tracee.view_called rfl t
  let tried : Tracee := { t.called .cont with
    refusals := { t.refusals with cont := t.refusals.cont.tail } }
  have htried : tried.view = t.view.tryCont := by
    show { (t.called .cont).view with refusals := tried.refusals } = _
    rw [hview]
    rfl
  refine ⟨{ tried with outlooks := t.outlooks.tail }, tried,
    fun hanswer => ?_, fun reason hanswer => ?_, ?_, htried⟩
  · change t.refusals.cont.head = none at hanswer
    simp [Tracing.cont, Tracee.called, hanswer, tried]
  · change t.refusals.cont.head = some reason at hanswer
    simp [Tracing.cont, Tracee.called, hanswer, tried]
  · show { tried.view with outlooks := t.outlooks.tail } = _
    rw [htried]
    rfl

theorem writeWord {done : Unit -> View -> Prop} {failed : String -> View -> Prop}
    {addr : Address} {word : Word}
    (hgranted : v.refusals.writeWord.head = none -> done () (v.store addr word))
    (hrefused : forall reason, v.refusals.writeWord.head = some reason ->
      failed reason (v.tryStore addr word)) :
    Ends (Tracing.writeWord addr word) v done failed := by
  refine answered (fun t ht => ?_) hgranted hrefused
  subst ht
  have hview : (t.called (.writeWord addr word)).view = t.view.act (.writeWord addr word) :=
    Tracee.view_called rfl t
  let tried : Tracee := { t.called (.writeWord addr word) with
    refusals := { t.refusals with writeWord := t.refusals.writeWord.tail } }
  have htried : tried.view = t.view.tryStore addr word := by
    show { (t.called (.writeWord addr word)).view with refusals := tried.refusals } = _
    rw [hview]
    rfl
  refine ⟨{ tried with memory := t.memory.set addr word }, tried,
    fun hanswer => ?_, fun reason hanswer => ?_, ?_, htried⟩
  · change t.refusals.writeWord.head = none at hanswer
    simp [Tracing.writeWord, Tracee.called, hanswer, tried]
  · change t.refusals.writeWord.head = some reason at hanswer
    simp [Tracing.writeWord, Tracee.called, hanswer, tried]
  · show { tried.view with memory := t.memory.set addr word } = _
    rw [htried]
    rfl

theorem getRegisters {done : Address -> View -> Prop}
    {failed : String -> View -> Prop}
    (hgranted : v.refusals.getRegisters = none ->
      done v.pointer (v.act .getRegisters))
    (hrefused : forall reason, v.refusals.getRegisters = some reason ->
      failed reason (v.act .getRegisters)) :
    Ends Tracing.getRegisters v done failed := by
  refine answered (fun t ht => ?_) hgranted hrefused
  subst ht
  have hview : (t.called .getRegisters).view = t.view.act .getRegisters :=
    Tracee.view_called rfl t
  refine ⟨_, _, fun hanswer => ?_, fun reason hanswer => ?_, hview, hview⟩
  · change t.refusals.getRegisters = none at hanswer
    simp [Tracing.getRegisters, Tracee.called, Tracee.view, hanswer]
  · change t.refusals.getRegisters = some reason at hanswer
    simp [Tracing.getRegisters, Tracee.called, hanswer]

theorem setRegisters {done : Unit -> View -> Prop} {failed : String -> View -> Prop}
    {pointer : Address}
    (hgranted : v.refusals.setRegisters = none -> done () (v.moveTo pointer))
    (hrefused : forall reason, v.refusals.setRegisters = some reason ->
      failed reason (v.act (.setRegisters pointer))) :
    Ends (Tracing.setRegisters pointer) v done failed := by
  refine answered (fun t ht => ?_) hgranted hrefused
  subst ht
  have hview : (t.called (.setRegisters pointer)).view = t.view.act (.setRegisters pointer) :=
    Tracee.view_called rfl t
  refine ⟨{ t.called (.setRegisters pointer) with pointer }, _,
    fun hanswer => ?_, fun reason hanswer => ?_, ?_, hview⟩
  · change t.refusals.setRegisters = none at hanswer
    simp [Tracing.setRegisters, Tracee.called, hanswer]
  · change t.refusals.setRegisters = some reason at hanswer
    simp [Tracing.setRegisters, Tracee.called, hanswer]
  · show { (t.called (.setRegisters pointer)).view with pointer } = _
    rw [hview]
    rfl

theorem readWord {done : Word -> View -> Prop} {failed : String -> View -> Prop}
    {addr : Address}
    (hgranted : forall word, v.refusals.readWord = none ->
      v.memory.get? addr = some word -> done word (v.act (.readWord addr)))
    (hrefused : forall reason,
      v.refusals.readWord = some reason ∨
        v.memory.get? addr = none ∧ reason = "unmapped " ++ Word.hex addr ->
      failed reason (v.act (.readWord addr))) :
    Ends (Tracing.readWord addr) v done failed := by
  have hview (t : Tracee) (ht : t.view = v) :
      (t.called (.readWord addr)).view = v.act (.readWord addr) := by
    rw [Tracee.view_called rfl, ht]
  cases hanswer : v.refusals.readWord with
  | some reason =>
      refine of_error (fun t ht => ⟨_, ?_, hview t ht⟩)
        (hrefused reason (Or.inl hanswer))
      subst ht
      change t.refusals.readWord = some reason at hanswer
      simp [Tracing.readWord, Tracee.called, hanswer]
  | none =>
      cases hword : v.memory.get? addr with
      | some word =>
          refine of_ok (fun t ht => ⟨_, ?_, hview t ht⟩) (hgranted word hanswer hword)
          subst ht
          change t.refusals.readWord = none at hanswer
          change t.memory.get? addr = some word at hword
          simp [Tracing.readWord, Tracee.called, hanswer, hword]
      | none =>
          refine of_error (fun t ht => ⟨_, ?_, hview t ht⟩)
            (hrefused ("unmapped " ++ Word.hex addr) (Or.inr ⟨hword, rfl⟩))
          subst ht
          change t.refusals.readWord = none at hanswer
          change t.memory.get? addr = none at hword
          simp [Tracing.readWord, Tracee.called, hanswer, hword]

theorem resolveEntry {done : Address -> View -> Prop}
    {failed : Failure Entry.Error -> View -> Prop}
    (hgranted : forall entry, v.entry = .ok entry -> done entry (v.act .resolveEntry))
    (hrefused : forall failure, v.entry = .error failure ->
      failed failure (v.act .resolveEntry)) :
    Ends Tracing.resolveEntry v done failed := by
  have hview (t : Tracee) (ht : t.view = v) :
      (t.called .resolveEntry).view = v.act .resolveEntry := by
    rw [Tracee.view_called rfl, ht]
  cases hsource : v.source with
  | answer entry =>
      cases entry with
      | ok entry =>
          refine of_ok (fun t ht => ⟨_, ?_, hview t ht⟩)
            (hgranted entry (by simp [Child.entry, hsource]))
          subst ht
          change t.source = .answer (.ok entry) at hsource
          simp [Tracing.resolveEntry, Tracee.called, hsource]
      | error reason =>
          refine of_error (fun t ht => ⟨_, ?_, hview t ht⟩)
            (hrefused (.reported (.unknown reason)) (by simp [Child.entry, hsource]))
          subst ht
          change t.source = .answer (.error reason) at hsource
          simp [Tracing.resolveEntry, Tracee.called, hsource]
  | files source =>
      -- Only what is told depends on whether details are asked for, not the answer.
      have hentry : v.entry = (Entry.resolve false v.pid source).2 := by
        simp [Child.entry, hsource]
      have htold (t : Tracee) (ht : t.view = v) :
          ({ t.called .resolveEntry with
            notices := t.notices ++ (Entry.resolve t.logging t.pid source).1 } :
              Tracee).view = v.act .resolveEntry := by
        rw [← hview t ht]
        simp only [Tracee.view, Tracee.called, Tracee.actions,
          Notice.essential_append_of_details (Entry.essential_resolve _ _ _)]
      cases hanswer : (Entry.resolve false v.pid source).2 with
      | ok entry =>
          refine of_ok (fun t ht => ⟨_, ?_, htold t ht⟩)
            (hgranted entry (hentry.trans hanswer))
          subst ht
          change t.source = .files source at hsource
          have hresolve := Entry.resolve_answer t.logging t.pid source
          change _ = (Entry.resolve false t.view.pid source).2 at hresolve
          rw [hanswer] at hresolve
          simp [Tracing.resolveEntry, Tracee.called, hsource, hresolve]
      | error failure =>
          refine of_error (fun t ht => ⟨_, ?_, htold t ht⟩)
            (hrefused failure (hentry.trans hanswer))
          subst ht
          change t.source = .files source at hsource
          have hresolve := Entry.resolve_answer t.logging t.pid source
          change _ = (Entry.resolve false t.view.pid source).2 at hresolve
          rw [hanswer] at hresolve
          simp [Tracing.resolveEntry, Tracee.called, hsource, hresolve]

/-!
## Breakpoints
-/

theorem inject {arch : Arch} {addr : Address}
    {done : Breakpoint -> View -> Prop} {failed : Breakpoint.Error -> View -> Prop}
    (hgranted : forall word, v.refusals.readWord = none ->
      v.memory.get? addr = some word -> v.refusals.writeWord.head = none ->
      done ⟨addr, word, arch.patch word⟩
        ((v.act (.readWord addr)).store addr (arch.patch word)))
    (hunreadable : forall reason,
      v.refusals.readWord = some reason ∨
        v.memory.get? addr = none ∧ reason = "unmapped " ++ Word.hex addr ->
      failed (.unreadable addr reason) (v.act (.readWord addr)))
    (hunwritable : forall word reason, v.refusals.readWord = none ->
      v.memory.get? addr = some word -> v.refusals.writeWord.head = some reason ->
      failed (.unwritable addr reason)
        ((v.act (.readWord addr)).tryStore addr (arch.patch word))) :
    Ends (Breakpoint.inject arch addr) v done failed := by
  apply bind
  apply adaptExcept
  refine readWord (fun word hread hword => ?_) hunreadable
  apply bind
  apply detail rfl
  apply bind
  apply adaptExcept
  refine writeWord (fun hwrite => ?_) (hunwritable word · hread hword)
  apply bind
  apply detail rfl
  exact pure (hgranted word hread hword hwrite)

theorem restore {done : Unit -> View -> Prop}
    {failed : Breakpoint.Error -> View -> Prop} {bp : Breakpoint}
    (hgranted : v.refusals.writeWord.head = none ->
      done () (v.store bp.addr bp.saved))
    (hrefused : forall reason, v.refusals.writeWord.head = some reason ->
      failed (.notRestored bp.addr reason) (v.tryStore bp.addr bp.saved)) :
    Ends bp.restore v done failed :=
  adaptExcept (writeWord hgranted hrefused)

/-!
## Failing
-/

theorem fail {done : α -> View -> Prop} {failed : Failure Attach.Error -> View -> Prop}
    {e : Attach.Error} (h : failed (.reported e) v) :
    Ends (Attach.fail e) v done failed :=
  throw h

theorem insist {call : Tracing ε α} {error : ε -> Attach.Error}
    {done : α -> View -> Prop} {failed : Failure Attach.Error -> View -> Prop}
    (h : Ends call v done fun e v' =>
      failed (.reported (error e)) (v'.tell (.invariantBroken (error e).message))) :
    Ends (Attach.insist error call) v done failed := by
  apply onRefusal
  refine h.weaken (fun _ _ hdone => hdone) (fun e v' hfailed => ?_)
  apply bind
  apply tell rfl
  exact fail hfailed

theorem abandon {done : Unit -> View -> Prop} {failed : ε -> View -> Prop}
    {pid : Pid} {bp : Breakpoint}
    (hgranted : done () (v.store bp.addr bp.saved))
    (hrefused : forall reason, done ()
      ((v.tryStore bp.addr bp.saved).tell (.trapLeft pid bp.addr reason))) :
    Ends (Attach.abandon pid bp) v done failed := by
  apply onRefusal
  refine restore (fun _ => hgranted) (fun reason _ => ?_)
  exact tell rfl (hrefused _)

end Ends
end Tracing
end EntryStop
