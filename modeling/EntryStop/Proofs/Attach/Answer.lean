import EntryStop.Proofs.Attach.Course

/-!
# Which children are brought to their entry

The answer is yes if tracing is allowed and no hurdle is in the way, and then the child is
where the run leaves it.
-/

namespace EntryStop
namespace Attach

section

variable (arch : Arch) (allowed logging : Bool) (c : Child)

theorem view_stopping :
    ((Tracee.meet logging c).detailed (.stoppingAtMain (Tracee.meet logging c).pid)).view =
      View.ofChild c :=
  (Tracee.view_detailed rfl _).trans (Tracee.view_meet logging c)

theorem stopAtMain_of_not_allowed :
    stopAtMain arch false logging c = (.ok false, .meet logging c) := rfl

theorem stopAtMain_allowed :
    (stopAtMain arch true logging c).1 = .ok true ∧
      (stopAtMain arch true logging c).2.view = arrived arch c ∧
      (forall h : Hurdle, h.Clear c) ∨
    (stopAtMain arch true logging c).1 ≠ .ok true ∧ (exists h : Hurdle, ¬ h.Clear c) := by
  simp only [stopAtMain, if_true]
  rcases run_cases arch (view_stopping logging c) with ⟨hrun, hview, hclear⟩ | ⟨f, hrun, hhalted⟩
  · rw [hrun]
    exact Or.inl ⟨rfl, hview, hclear⟩
  · rw [hrun]
    refine Or.inr ⟨?_, hurdleOf f, hhalted.notClear⟩
    cases f with
    | reported e => exact nofun
    | fault f => exact nofun

/-- A child is brought to its entry exactly if it may be traced and clears every hurdle. -/
theorem stopAtMain_eq_true_iff :
    (stopAtMain arch allowed logging c).1 = .ok true ↔
      allowed = true ∧ forall h : Hurdle, h.Clear c := by
  cases allowed with
  | false => exact ⟨nofun, fun h => nomatch h.left⟩
  | true =>
      rcases stopAtMain_allowed arch logging c with ⟨hyes, _, hclear⟩ | ⟨hno, h, hnot⟩
      · exact ⟨fun _ => ⟨rfl, hclear⟩, fun _ => hyes⟩
      · exact ⟨fun hyes => absurd hyes hno, fun hall => absurd (hall.right h) hnot⟩

theorem view_stopAtMain (h : (stopAtMain arch allowed logging c).1 = .ok true) :
    (stopAtMain arch allowed logging c).2.view = arrived arch c := by
  cases allowed with
  | false => cases h
  | true =>
      rcases stopAtMain_allowed arch logging c with ⟨_, hview, _⟩ | ⟨hno, _⟩
      · exact hview
      · exact absurd h hno

end

end Attach
end EntryStop
