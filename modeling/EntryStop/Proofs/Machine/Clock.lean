import EntryStop.Machine.Clock

/-!
# Times as numbers

A conversion to nanoseconds gives the exact product or fails, and a time limit is exceeded
exactly if the clock shows more than the start and the limit together.
-/

namespace EntryStop
namespace Clock

/-!
## Conversions
-/

-- These are equations of functions: applied to an argument, they would make the kernel
-- evaluate the product, which it does by counting.
theorem millis_eq :
    millis = fun n =>
      match Word.mul? n 1000000 with
      | some ns => .ok ns
      | none => .error .mulOverflow :=
  rfl

theorem seconds_eq :
    seconds = fun n =>
      match Word.mul? n 1000000000 with
      | some ns => .ok ns
      | none => .error .mulOverflow :=
  rfl

theorem product_eq_ok_iff {n factor ns : Word} :
    (match Word.mul? n factor with
      | some product => Except.ok product
      | none => .error Fault.mulOverflow) = .ok ns ↔
      ns.toNat = n.toNat * factor.toNat := by
  rw [← Word.mul?_eq_some_iff]
  cases Word.mul? n factor with
  | none => simp
  | some product => simp

theorem millis_eq_ok_iff {n ns : Word} :
    millis n = .ok ns ↔ ns.toNat = n.toNat * 1000000 := by
  rw [millis_eq]
  exact product_eq_ok_iff

theorem seconds_eq_ok_iff {n ns : Word} :
    seconds n = .ok ns ↔ ns.toNat = n.toNat * 1000000000 := by
  rw [seconds_eq]
  exact product_eq_ok_iff

theorem exists_millis {n : Word} (h : n.toNat * 1000000 < UInt64.size) :
    exists ns, millis n = .ok ns :=
  ⟨UInt64.ofNat (n.toNat * 1000000), millis_eq_ok_iff.mpr (UInt64.toNat_ofNat_of_lt' h)⟩

theorem exists_seconds (n : UInt32) :
    exists ns, seconds n.toUInt64 = .ok ns ∧ ns.toNat = n.toNat * 1000000000 := by
  have hn : n.toNat < 4294967296 := n.toNat_lt
  have hvalue : (UInt64.ofNat (n.toNat * 1000000000)).toNat = n.toNat * 1000000000 := by
    apply UInt64.toNat_ofNat_of_lt'
    show n.toNat * 1000000000 < 18446744073709551616
    omega
  exact ⟨_, seconds_eq_ok_iff.mpr hvalue, hvalue⟩

/-!
## Limits
-/

theorem lt_elapsed_iff {start : Word} (hstart : start ≠ 0) (timeout now : Word) :
    timeout < elapsed start (some now) ↔
      start.toNat + timeout.toNat < now.toNat := by
  rw [elapsed_some hstart, UInt64.lt_iff_toNat_lt]
  by_cases hle : start ≤ now
  · have hnat := UInt64.le_iff_toNat_le.mp hle
    rw [Word.monus, if_pos hle, UInt64.toNat_sub_of_le _ _ hle]
    omega
  · have hnat : ¬ start.toNat ≤ now.toNat := fun h => hle (UInt64.le_iff_toNat_le.mpr h)
    rw [Word.monus, if_neg hle]
    constructor
    · intro hlt
      exact absurd hlt (Nat.not_lt_zero _)
    · intro hlt
      omega

theorem lt_greatest_of_millis {ms limit : Word} (h : limit.toNat = ms.toNat * 1000000) :
    limit < Word.greatest := by
  have hlt := limit.toNat_lt
  rw [UInt64.lt_iff_toNat_lt]
  show limit.toNat < 18446744073709551615
  omega

end Clock
end EntryStop
