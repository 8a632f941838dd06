import EntryStop.Proofs.Attach.Course

/-!
# The child's memory after a run

A run writes at the entry alone.  Either the word there is put back, or the run has
failed and has told so.
-/

namespace EntryStop
namespace Attach

structure TrapLeft (arch : Arch) (c : Child) (t : Tracee) : Prop where
  entry : c.entry = .ok c.entryAddress
  word : c.memory.get? c.entryAddress = some c.entryWord
  memory : t.memory = c.memory.set c.entryAddress (arch.patch c.entryWord)
  told : exists n, n ∈ t.notices ∧ n.level = .error

theorem Halted.memory_cases {arch : Arch} {c : Child} {h : Hurdle} {t : Tracee}
    (ht : Halted arch c h t.view) :
    (forall a, t.memory.get? a = c.memory.get? a) ∨ TrapLeft arch c t := by
  cases htrap : h.trapIn with
  | false =>
      have hmemory : t.memory = c.memory := ht.memory_of_no_trap htrap
      exact Or.inl fun a => by rw [hmemory]
  | true =>
      have hindex := Hurdle.trap_before_of_trapIn htrap
      have hentry : Hurdle.entry.Clear c :=
        ht.passed .entry (Nat.lt_trans (by decide) hindex)
      have hword : Hurdle.word.Clear c :=
        ht.passed .word (Nat.lt_trans (by decide) hindex)
      rcases ht.memory_of_trap htrap with hrestored | ⟨hleft, n, hn, herror⟩
      · change t.memory = _ at hrestored
        apply Or.inl
        intro a
        rw [hrestored]
        exact Memory.get?_set_set hword.right _ a
      · exact Or.inr ⟨hentry, hword.right, hleft, n,
          Notice.mem_of_mem_essential hn, herror⟩

theorem memory_arrived {arch : Arch} {c : Child} {t : Tracee}
    (ht : t.view = arrived arch c) (hclear : Hurdle.word.Clear c) (a : Address) :
    t.memory.get? a = c.memory.get? a := by
  have hmemory : t.memory = (arrived arch c).memory :=
    congrArg (fun v : View => v.memory) ht
  rw [hmemory]
  exact Memory.get?_set_set hclear.right _ a

theorem memory_left (arch : Arch) (logging : Bool) (c : Child) :
    (forall a, (left (attach arch logging c)).memory.get? a = c.memory.get? a) ∨
    (exists f t, attach arch logging c = .error f t ∧ TrapLeft arch c t) := by
  rcases attach_cases arch logging c with ⟨_, hview, hclear⟩ | ⟨f, hattach, hhalted⟩
  · exact Or.inl (memory_arrived hview (hclear .word))
  · rcases hhalted.memory_cases with hsame | hleft
    · exact Or.inl hsame
    · exact Or.inr ⟨f, _, hattach, hleft⟩

/-- Memory after every run: nothing but the word at the entry can have changed, that
one only into the word with the trap, and never without a failure that was told. -/
theorem memory_restored_or_reported (arch : Arch) (logging : Bool) (c : Child) :
    (forall a, c.entry ≠ .ok a ->
      (left (attach arch logging c)).memory.get? a = c.memory.get? a) ∧
    (forall e, c.entry = .ok e ->
      (left (attach arch logging c)).memory.get? e = c.memory.get? e ∨
      exists w, c.memory.get? e = some w ∧
        (left (attach arch logging c)).memory.get? e = some (arch.patch w)) ∧
    (forall e t, attach arch logging c = .ok e t ->
      forall a, t.memory.get? a = c.memory.get? a) ∧
    (forall e, c.entry = .ok e ->
      (left (attach arch logging c)).memory.get? e ≠ c.memory.get? e ->
      (exists f t, attach arch logging c = .error f t) ∧
        exists n, n ∈ (left (attach arch logging c)).notices ∧ n.level = .error) := by
  rcases memory_left arch logging c with hsame | ⟨f, t, hattach, hleft⟩
  · refine ⟨fun a _ => hsame a, fun e _ => Or.inl (hsame e), ?_, ?_⟩
    · intro e t hattach a
      rw [hattach] at hsame
      exact hsame a
    · intro e _ hchanged
      exact absurd (hsame e) hchanged
  · rw [hattach]
    change (forall a, c.entry ≠ .ok a -> t.memory.get? a = _) ∧ _
    refine ⟨?_, ?_, ?_, ?_⟩
    · intro a ha
      have hne : a ≠ c.entryAddress := by
        intro heq
        exact ha (heq ▸ hleft.entry)
      rw [hleft.memory, Memory.get?_set_of_ne hne]
    · intro e he
      have heq : c.entryAddress = e := Except.ok.inj (hleft.entry.symm.trans he)
      subst heq
      refine Or.inr ⟨c.entryWord, hleft.word, ?_⟩
      change t.memory.get? _ = _
      rw [hleft.memory, Memory.get?_set_self]
    · intro e t' hok
      cases hok
    · intro e _ _
      exact ⟨⟨f, t, rfl⟩, hleft.told⟩

end Attach
end EntryStop
