import EntryStop.Proofs.Attach.Pointer

/-!
# The warning about the third stop

A successful run moves the instruction pointer back by the length of the trap, modulo the
size of a word.  It warns of a stop elsewhere exactly if the child is then not on its entry,
although the check adds that length to the entry and the move takes it from the pointer.
-/

namespace EntryStop

def Notice.isElsewhere : Notice -> Bool
  | stoppedElsewhere .. => true
  | _ => false

theorem Notice.isDetail_of_isElsewhere (n : Notice) (h : n.isElsewhere = true) :
    n.isDetail = false := by
  cases n with
  | stoppedElsewhere pid pointer entry => rfl
  | _ => cases h

theorem Arch.toNat_beforeTrap (arch : Arch) (pointer : Address) :
    ((arch.beforeTrap pointer).toNat : Int) =
      (pointer.toNat - arch.rollback.toNat) % UInt64.size := by
  have hpointer := pointer.toNat_lt
  have hrollback := arch.rollback.toNat_lt
  rw [beforeTrap, UInt64.toNat_sub]
  simp only [UInt64.size]
  omega

namespace Attach

/-!
## Successful runs
-/

theorem attach_ok_iff {arch : Arch} {logging : Bool} {c : Child} :
    (exists e t, attach arch logging c = .ok e t) ↔ forall h : Hurdle, h.Clear c := by
  constructor
  · rintro ⟨e, t, hattach⟩
    exact (attach_ok hattach).right.right
  · intro hclear
    rcases attach_cases arch logging c with ⟨hattach, _, _⟩ | ⟨f, _, hhalted⟩
    · exact ⟨_, _, hattach⟩
    · exact absurd (hclear (hurdleOf f)) hhalted.notClear

theorem elsewhere_of_execWarnings (c : Child) :
    (execWarnings c).filter Notice.isElsewhere = [] := by
  unfold execWarnings
  split
  · split
    · rfl
    · rfl
  · rfl

theorem elsewhere_of_attach_ok {arch : Arch} {logging : Bool} {c : Child} {e : Address}
    {t : Tracee} (h : attach arch logging c = .ok e t) :
    t.notices.filter Notice.isElsewhere =
      if t.pointer = e then [] else [.stoppedElsewhere c.pid c.pointer e] := by
  rcases attach_ok h with ⟨rfl, hview, _⟩
  have hnotices : Notice.essential t.notices = execWarnings c ++ trapWarnings arch c :=
    congrArg (fun v : View => v.notices) hview
  have hreached : t.pointer = c.entryAddress ↔
      c.pointer = arch.afterTrap c.entryAddress := by
    rw [pointer_arrived hview]
    exact UInt64.sub_eq_iff_eq_add
  rw [← Notice.filter_essential Notice.isDetail_of_isElsewhere, hnotices,
    List.filter_append, elsewhere_of_execWarnings, List.nil_append, trapWarnings]
  by_cases hbehind : c.pointer = arch.afterTrap c.entryAddress
  · rw [if_pos hbehind, if_pos (hreached.mpr hbehind)]
    rfl
  · rw [if_neg hbehind, if_neg fun hentry => hbehind (hreached.mp hentry)]
    rfl

/-!
## Faults
-/

theorem attach_fault {arch : Arch} {logging : Bool} {c : Child} {f : Fault} {t : Tracee}
    (h : attach arch logging c = .error (.fault f) t) :
    (forall e, c.entry ≠ .ok e) ∧ t.actions = [.traceExec, .cont, .resolveEntry] := by
  rcases attach_cases arch logging c with ⟨hattach, _, _⟩ | ⟨f', hattach, hhalted⟩
  · cases hattach.symm.trans h
  · cases hattach.symm.trans h
    constructor
    · intro e he
      apply hhalted.notClear
      show c.entry = .ok c.entryAddress
      rw [Child.entryAddress, he]
    · exact hhalted.actions

/-- A run succeeds exactly if every hurdle is clear, which does not depend on the trap or on
where the child is.  It has then moved the instruction pointer back by the length of the
trap, and it has warned of a stop elsewhere exactly if that is not the entry.  A run faults
at the look-up of the entry or not at all. -/
theorem attach_moves_back (arch : Arch) (logging : Bool) (c : Child) :
    ((exists e t, attach arch logging c = .ok e t) ↔ forall h : Hurdle, h.Clear c) ∧
    (forall e t, attach arch logging c = .ok e t ->
      (t.pointer.toNat : Int) =
          (c.pointer.toNat - arch.rollback.toNat) % UInt64.size ∧
        (t.pointer = e ↔ forall n, n ∈ t.notices -> n.isElsewhere = false) ∧
        (t.pointer ≠ e ->
          t.notices.filter Notice.isElsewhere =
            [.stoppedElsewhere c.pid c.pointer e])) ∧
    (forall f t, attach arch logging c = .error (.fault f) t ->
      (forall e, c.entry ≠ .ok e) ∧ t.actions = [.traceExec, .cont, .resolveEntry]) := by
  refine ⟨attach_ok_iff, ?_, fun f t h => attach_fault h⟩
  intro e t h
  have hwarned := elsewhere_of_attach_ok h
  refine ⟨?_, ?_, ?_⟩
  · rw [pointer_arrived (attach_ok h).right.left]
    exact arch.toNat_beforeTrap c.pointer
  · constructor
    · intro hentry n hn
      rw [if_pos hentry] at hwarned
      exact Bool.eq_false_iff.mpr (List.filter_eq_nil_iff.mp hwarned n hn)
    · intro hsilent
      apply Decidable.byContradiction
      intro hne
      rw [if_neg hne, List.filter_eq_nil_iff.mpr fun n hn =>
        Bool.eq_false_iff.mp (hsilent n hn)] at hwarned
      cases hwarned
  · intro hne
    rw [hwarned, if_neg hne]

def trappedAtTop : Child :=
  { willing (showing (.stopped 1234 .stop))
      (showing (.event 1234 .trap Status.execEvent))
      (showing (.stopped 1234 .trap)) 0 with
    memory := .ofList [(0xFFFFFFFFFFFFFFFF, 0x4855fa1e0f6690c3)]
    source := .answer (.ok 0xFFFFFFFFFFFFFFFF) }

theorem attach_moves_back_trappedAtTop :
    exists t, attach .x86_64 false trappedAtTop = .ok 0xFFFFFFFFFFFFFFFF t ∧
      (t.pointer.toNat : Int) =
          (trappedAtTop.pointer.toNat - Arch.x86_64.rollback.toNat) % UInt64.size ∧
        (t.pointer = 0xFFFFFFFFFFFFFFFF ↔
          forall n, n ∈ t.notices -> n.isElsewhere = false) ∧
        (t.pointer ≠ 0xFFFFFFFFFFFFFFFF ->
          t.notices.filter Notice.isElsewhere =
            [.stoppedElsewhere trappedAtTop.pid trappedAtTop.pointer 0xFFFFFFFFFFFFFFFF]) := by
  have hattach : attach .x86_64 false trappedAtTop =
      .ok 0xFFFFFFFFFFFFFFFF (left (attach .x86_64 false trappedAtTop)) := rfl
  exact ⟨_, hattach, (attach_moves_back .x86_64 false trappedAtTop).right.left _ _ hattach⟩

end Attach
end EntryStop
