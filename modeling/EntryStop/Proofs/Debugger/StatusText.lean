import EntryStop.Proofs.Debugger.Await
import EntryStop.Proofs.Debugger.Presence

/-!
# What a status text tells

A status text names a tracer or none, and all who read it understand the same.  The answer of a
program about itself is taken from it, and a wait that polls it ends with the tracer, exactly
if that is a process, which zero is not.
-/

namespace EntryStop
namespace Debugger

def awaitStatuses (timeout : Word) (clock : List Clock.Reading)
    (statuses : List (Option (List Char))) : Awaited :=
  await timeout clock (statuses.map fun status => status.bind tracerPid)

section

variable {status : List Char} {tracer : Pid}

theorem answerAt_statuses {statuses : List (Option (List Char))} {k : Nat}
    (h : NamesTracer status tracer) (hk : statuses[k]? = some (some status)) :
    answerAt (statuses.map fun status => status.bind tracerPid) k = some tracer := by
  rw [answerAt, List.getD_eq_getElem?_getD, List.getElem?_map, hk]
  exact tracerPid_eq_some_iff.mpr h

theorem awaitStatuses_attached_iff {timeout : Word} {clock : List Clock.Reading}
    {statuses : List (Option (List Char))} {k : Nat} {other : Pid}
    (h : NamesTracer status tracer) (hk : statuses[k]? = some (some status))
    (hpolled : k < (awaitStatuses timeout clock statuses).polls) :
    (awaitStatuses timeout clock statuses).polls = k + 1 ∧
        (awaitStatuses timeout clock statuses).tracer = some other ↔
      other = tracer ∧ tracer ≠ 0 := by
  rcases exists_endedAt_await timeout clock (statuses.map fun status => status.bind tracerPid)
    with ⟨last, hended⟩
  rw [awaitStatuses, hended.polls_eq] at hpolled
  exact hended.attached_iff (Nat.le_of_lt_succ hpolled) (answerAt_statuses h hk)

theorem get_cache_fresh_iff (h : NamesTracer status tracer) :
    (Presence.fresh.cache (some status)).presence.get = true ↔ tracer ≠ 0 := by
  rcases Presence.cache_fresh (some status) with ⟨present, hcache, hpresent⟩
  rw [hcache]
  apply hpresent.trans
  constructor
  · intro hnames
    rcases hnames with ⟨text, other, htext, hother, hne⟩
    cases htext
    rw [← tracerPid_eq_some_iff] at h hother
    cases h.symm.trans hother
    exact hne
  · intro hne
    exact ⟨status, tracer, rfl, h, hne⟩

/-- A status text gives a tracer exactly if its first line with the label names it, whatever
stands in lines without the label and behind that line, and none if no line begins with the
label.  The program takes itself for debugged exactly if the tracer is not zero.  A wait that
polls the text ends with that poll and a tracer exactly if it is this one and not zero. -/
theorem status_tells_tracer (status : List Char) :
    (Unlabelled status -> tracerPid status = none) ∧
    forall tracer, (tracerPid status = some tracer ↔ NamesTracer status tracer) ∧
      (NamesTracer status tracer ->
        ((Presence.fresh.cache (some status)).presence.get = true ↔ tracer ≠ 0) ∧
        forall timeout clock statuses k other, statuses[k]? = some (some status) ->
          k < (awaitStatuses timeout clock statuses).polls ->
          ((awaitStatuses timeout clock statuses).polls = k + 1 ∧
              (awaitStatuses timeout clock statuses).tracer = some other ↔
            other = tracer ∧ tracer ≠ 0)) := by
  refine ⟨tracerPid_of_unlabelled, ?_⟩
  intro tracer
  refine ⟨tracerPid_eq_some_iff, ?_⟩
  intro h
  refine ⟨get_cache_fresh_iff h, ?_⟩
  intro timeout clock statuses k other hk hpolled
  exact awaitStatuses_attached_iff h hk hpolled

end

def namedStatus : List Char :=
  "Name:\tTracerPid:\t7\nTracerPid:\t -2147483648 \r\nTracerPid:\t0\n".toList

theorem tracerLine_smallest :
    TracerLine "TracerPid:\t -2147483648 \r".toList (-2147483648) := by
  have hgap : forall c, c ∈ "\t ".toList -> Text.isBlank c = true := List.all_eq_true.mp rfl
  have hgap' : forall c, c ∈ " \r".toList -> Text.isBlank c = true := List.all_eq_true.mp rfl
  exact tracerLine_text (-2147483648) hgap hgap'

theorem status_tells_tracer_namedStatus :
    NamesTracer namedStatus (-2147483648) ∧
      tracerPid namedStatus = some (-2147483648) ∧
      (Presence.fresh.cache (some namedStatus)).presence.get = true ∧
      (awaitStatuses 5 [some 1, some 9] [some namedStatus]).tracer = some (-2147483648) ∧
      Unlabelled "Name:\tTracerPid:\t7\n".toList ∧
      tracerPid "Name:\tTracerPid:\t7\n".toList = none := by
  have hnames : NamesTracer namedStatus (-2147483648) :=
    ⟨"Name:\tTracerPid:\t7\n".toList, "TracerPid:\t -2147483648 \r".toList,
      "\nTracerPid:\t0\n".toList, rfl, by decide, by decide, by decide, tracerLine_smallest,
      fun c hc => (Option.some.inj hc).symm⟩
  have hunlabelled : Unlabelled "Name:\tTracerPid:\t7\n".toList := by decide
  rcases (status_tells_tracer namedStatus).right (-2147483648) with ⟨hread, htold⟩
  rcases htold hnames with ⟨hpresent, hawaited⟩
  have hattached := (hawaited 5 [some 1, some 9] [some namedStatus] 0 (-2147483648) rfl
    (by decide +kernel)).mpr ⟨rfl, by decide⟩
  exact ⟨hnames, hread.mpr hnames, hpresent.mpr (by decide), hattached.right, hunlabelled,
    (status_tells_tracer "Name:\tTracerPid:\t7\n".toList).left hunlabelled⟩

end Debugger
end EntryStop
