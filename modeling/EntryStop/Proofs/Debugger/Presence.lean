import EntryStop.Debugger.Presence
import EntryStop.Proofs.Debugger.TracerLine
import EntryStop.Proofs.Machine.Results

/-!
# The answer that is kept

The first status text that is offered decides whether a debugger is present.  Questions before
it are answered in the negative, and all later ones as it decided, whatever is offered then.
A status text that is missing decides as well, and it is told.
-/

namespace EntryStop
namespace Presence

/-!
## Single requests
-/

def NamesDebugger (status : Option (List Char)) : Prop :=
  exists text tracer, status = some text ∧ Debugger.NamesTracer text tracer ∧ tracer ≠ 0

def told : Option (List Char) -> List Notice
  | some _ => []
  | none => [.statusMissing]

def Reply.kept (present : Bool) : Reply := ⟨present, false, []⟩

theorem isTraced_iff {text : List Char} :
    isTraced text = true ↔ NamesDebugger (some text) := by
  rw [isTraced, bne_iff_ne]
  cases htracer : Debugger.tracerPid text with
  | none =>
      apply iff_of_false
      · exact not_not_intro rfl
      · intro h
        rcases h with ⟨other, tracer, hother, hnames, _⟩
        cases hother
        rw [Debugger.tracerPid_eq_some_iff.mpr hnames] at htracer
        cases htracer
  | some tracer =>
      rw [Option.getD_some]
      constructor
      · intro hne
        exact ⟨text, tracer, rfl, Debugger.tracerPid_eq_some_iff.mp htracer, hne⟩
      · intro h
        rcases h with ⟨other, tracer', hother, hnames, hne⟩
        cases hother
        cases htracer.symm.trans (Debugger.tracerPid_eq_some_iff.mpr hnames)
        exact hne

theorem cache_fresh (status : Option (List Char)) :
    exists present, fresh.cache status = ⟨⟨true, present⟩, true, told status⟩ ∧
      (present = true ↔ NamesDebugger status) := by
  cases status with
  | some text => exact ⟨isTraced text, rfl, isTraced_iff⟩
  | none =>
      refine ⟨false, rfl, iff_of_false Bool.false_ne_true ?_⟩
      intro h
      rcases h with ⟨_, _, hnone, _⟩
      cases hnone

theorem answer_of_cached {p : Presence} (h : p.cached = true) (r : Request) :
    p.answer r = (p, .kept p.present) := by
  cases r with
  | cache status => rw [answer, cache_of_cached h]; rfl
  | get => rfl

/-!
## Runs of requests
-/

theorem answerAll_of_cached {p : Presence} (h : p.cached = true) (rs : List Request) :
    p.answerAll rs = rs.map fun _ => .kept p.present := by
  induction rs with
  | nil => rfl
  | cons r rs ih =>
      rw [answerAll, answer_of_cached h, List.map_cons]
      exact congrArg (Reply.kept p.present :: ·) ih

theorem answerAll_gets_append {gets : List Request} (hgets : forall r, r ∈ gets -> r = .get)
    (p : Presence) (rs : List Request) :
    p.answerAll (gets ++ rs) = (gets.map fun _ => .kept p.present) ++ p.answerAll rs := by
  induction gets with
  | nil => rfl
  | cons r gets ih =>
      rcases List.forall_mem_cons.mp hgets with ⟨rfl, hrest⟩
      exact congrArg (Reply.kept p.present :: ·) (ih hrest)

theorem eq_get_of_not_cache {r : Request} (h : ¬ exists status, r = .cache status) :
    r = .get := by
  cases r with
  | cache status => exact absurd ⟨status, rfl⟩ h
  | get => rfl

theorem answerAll_fresh_of_gets {gets : List Request}
    (hgets : forall r, r ∈ gets -> r = .get) :
    fresh.answerAll gets = gets.map fun _ => .kept false := by
  have h := answerAll_gets_append hgets fresh []
  rw [List.append_nil] at h
  exact h.trans (List.append_nil _)

theorem flatMap_notices_kept (present : Bool) (rs : List Request) :
    (rs.map fun _ => Reply.kept present).flatMap Reply.notices = [] := by
  rw [List.flatMap_eq_nil_iff]
  intro reply hreply
  rcases List.mem_map.mp hreply with ⟨_, _, rfl⟩
  rfl

/-- Either only questions are put, and all are answered in the negative.  Or some request is
the first to offer contents: it alone asks for them, questions before it are answered in the
negative, and it and all requests behind it get the answer that these contents decide.  One
warning is given if they are missing, and none otherwise. -/
theorem first_offer_decides (rs : List Request) :
    ((forall r, r ∈ rs -> r = .get) ∧ fresh.answerAll rs = rs.map fun _ => .kept false) ∨
    exists gets status later present,
      rs = gets ++ .cache status :: later ∧ (forall r, r ∈ gets -> r = .get) ∧
      (present = true ↔ NamesDebugger status) ∧
      fresh.answerAll rs =
        (gets.map fun _ => .kept false) ++
          ⟨present, true, told status⟩ :: (later.map fun _ => .kept present) ∧
      (fresh.answerAll rs).flatMap Reply.notices = told status ∧
      (told status = [.statusMissing] ↔ status = none) ∧
      Notice.statusMissing.record.level = .warn := by
  rcases none_or_exists_first (fun r => exists status, r = Request.cache status) rs with
    hnone | ⟨gets, _, later, rfl, hnone, status, rfl⟩
  · have hgets : forall r, r ∈ rs -> r = .get := fun r hr => eq_get_of_not_cache (hnone r hr)
    exact Or.inl ⟨hgets, answerAll_fresh_of_gets hgets⟩
  · have hgets : forall r, r ∈ gets -> r = .get := fun r hr => eq_get_of_not_cache (hnone r hr)
    rcases cache_fresh status with ⟨present, hcache, hpresent⟩
    have hreplies : fresh.answerAll (gets ++ .cache status :: later) =
        (gets.map fun _ => .kept false) ++
          ⟨present, true, told status⟩ :: later.map fun _ => .kept present := by
      rw [answerAll_gets_append hgets, answerAll, answer, hcache]
      simp only [answerAll_of_cached]
      rfl
    refine Or.inr ⟨gets, status, later, present, rfl, hgets, hpresent, hreplies, ?_, ?_, rfl⟩
    · rw [hreplies, List.flatMap_append, List.flatMap_cons, flatMap_notices_kept,
        flatMap_notices_kept, List.append_nil, List.nil_append]
    · cases status with
      | some text => exact iff_of_false nofun nofun
      | none => exact iff_of_true rfl rfl

example :
    fresh.answerAll [.get, .cache none, .cache (some "TracerPid:\t555\n".toList), .get] =
      [.kept false, ⟨false, true, [.statusMissing]⟩, .kept false, .kept false] :=
  rfl

end Presence
end EntryStop
