import EntryStop.Proofs.IdentPort.Retries

/-!
# The double that is never waited

After the last delay there is one run more and no further delay, but that delay is doubled
like the others.  If all the delays between the runs fit, its double is the only one that may
not, and then the last run is never made.
-/

namespace EntryStop
namespace Backoff

section

variable {attempts : Nat} {delay : Delay} {outputs : List (Option (List Char))} {j : Nat}

/-!
## Delays between the runs
-/

theorem two_pow_mul_le {i : Nat} (hle : i ≤ j) (delay : Delay) :
    2 ^ i * delay ≤ 2 ^ j * delay :=
  Nat.mul_le_mul_right delay (Nat.pow_le_pow_right (Nat.succ_pos 1) hle)

theorem fits_of_lt (h : 2 ^ j * delay < delayLimit) : Fits delay j := by
  intro i hi
  exact Nat.lt_of_le_of_lt (two_pow_mul_le (Nat.succ_le_of_lt hi) delay) h

theorem OverflowsAt.eq_last (h : OverflowsAt (attempts + 2) delay outputs j)
    (hlast : 2 ^ attempts * delay < delayLimit) : j = attempts := by
  have hle : j ≤ attempts := Nat.le_of_lt_succ (Nat.lt_of_succ_lt_succ h.goesOn)
  exact Nat.le_antisymm hle (h.le_of_fits (fits_of_lt hlast))

theorem overflowsAt_last_iff (hlast : 2 ^ attempts * delay < delayLimit) :
    OverflowsAt (attempts + 2) delay outputs attempts ↔
      (forall i, i < attempts + 1 -> SilentAt outputs i) ∧
        delayLimit ≤ 2 ^ (attempts + 1) * delay := by
  constructor
  · intro h
    exact ⟨h.silent, h.overflow⟩
  · intro h
    exact ⟨Nat.lt_succ_self _, h.left, fits_of_lt hlast, h.right⟩

theorem exists_overflowsAt_iff (hlast : 2 ^ attempts * delay < delayLimit) :
    (exists j, OverflowsAt (attempts + 2) delay outputs j) ↔
      (forall i, i < attempts + 1 -> SilentAt outputs i) ∧
        delayLimit ≤ 2 ^ (attempts + 1) * delay := by
  rw [← overflowsAt_last_iff hlast]
  constructor
  · intro h
    rcases h with ⟨j, hj⟩
    exact hj.eq_last hlast ▸ hj
  · intro h
    exact ⟨attempts, h⟩

end

/-!
## Retries
-/

section

variable {attempts : Nat} {delay : Delay}

/-- If every delay between the runs fits, a retry fails exactly if all runs but the last one
are silent and the double of the last delay, which nobody would wait for, does not fit.  All
delays are over then, and the last run is left out. -/
theorem fails_iff_unwaited_overflows (hattempts : 2 ≤ attempts)
    (hlast : 2 ^ (attempts - 2) * delay < delayLimit) (outputs : List (Option (List Char))) :
    (forall fault, (retry attempts delay outputs).output = .error fault ↔
      fault = .delayOverflow ∧ (forall j, j < attempts - 1 -> SilentAt outputs j) ∧
        delayLimit ≤ 2 ^ (attempts - 1) * delay) ∧
    ((forall j, j < attempts - 1 -> SilentAt outputs j) ->
      delayLimit ≤ 2 ^ (attempts - 1) * delay ->
        retry attempts delay outputs =
          ⟨.error .delayOverflow, attempts - 1, delays delay (attempts - 1)⟩) := by
  rcases Nat.exists_eq_add_of_le' hattempts with ⟨between, rfl⟩
  have hcourse := course_retry (between + 2) delay outputs
  have hwhen : (exists j, OverflowsAt (between + 2) delay outputs j) ↔
      (forall j, j < between + 1 -> SilentAt outputs j) ∧
        delayLimit ≤ 2 ^ (between + 1) * delay :=
    exists_overflowsAt_iff hlast
  constructor
  · intro fault
    constructor
    · intro hfault
      rcases hcourse.exists_overflow hfault with ⟨hkind, hoverflow⟩
      exact ⟨hkind, hwhen.mp hoverflow⟩
    · intro h
      rcases h with ⟨hkind, hcondition⟩
      rcases hwhen.mpr hcondition with ⟨j, hoverflow⟩
      rw [hcourse.eq_of_overflow hoverflow, hkind]
  · intro hsilent hoverflow
    exact hcourse.eq_of_overflow ((overflowsAt_last_iff hlast).mpr ⟨hsilent, hoverflow⟩)

end

theorem fails_iff_unwaited_overflows_beforeLast :
    2 ≤ 3 ∧ 2 ^ (3 - 2) * (doubledTwice + 1) < delayLimit ∧
      (forall j, j < 3 - 1 -> SilentAt lateOutputs j) ∧
      delayLimit ≤ 2 ^ (3 - 1) * (doubledTwice + 1) ∧
      retry 3 (doubledTwice + 1) lateOutputs =
        ⟨.error .delayOverflow, 2, delays (doubledTwice + 1) 2⟩ := by
  have hattempts : 2 ≤ 3 := by decide
  have hlast : 2 ^ (3 - 2) * (doubledTwice + 1) < delayLimit := by decide
  have hsilent : forall j, j < 3 - 1 -> SilentAt lateOutputs j := by decide
  have hoverflow : delayLimit ≤ 2 ^ (3 - 1) * (doubledTwice + 1) := by decide
  have hfails := fails_iff_unwaited_overflows hattempts hlast lateOutputs
  exact ⟨hattempts, hlast, hsilent, hoverflow, hfails.right hsilent hoverflow⟩

/-- 2^63 nanoseconds.  It can be doubled thirty times. -/
def longDelay : Delay := 9223372036854775808

theorem unwaited_double_overflows :
    2 ≤ 32 ∧ 2 ^ (32 - 2) * longDelay < delayLimit ∧
      retry 32 longDelay [] = ⟨.error .delayOverflow, 31, delays longDelay 31⟩ :=
  ⟨by decide, by decide, rfl⟩

end Backoff
end EntryStop
