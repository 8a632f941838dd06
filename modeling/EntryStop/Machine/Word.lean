/-!
# Machine words

Addresses, instruction words and file offsets are 64-bit words.  Their checked
operations give a result only where the exact one fits.
-/

namespace EntryStop

abbrev Word := UInt64

abbrev Address := UInt64

namespace Word

def add? (a b : Word) : Option Word :=
  if a.toNat + b.toNat < UInt64.size then some (a + b) else none

def sub? (a b : Word) : Option Word :=
  if b ≤ a then some (a - b) else none

def mul? (a b : Word) : Option Word :=
  if a.toNat * b.toNat < UInt64.size then some (a * b) else none

def shiftLeft? (a places : Word) : Option Word :=
  if places.toNat < 64 then some (a <<< places) else none

def monus (a b : Word) : Word :=
  if b ≤ a then a - b else 0

def greatest : Word := UInt64.ofNat (UInt64.size - 1)

def hex (a : Word) : String :=
  "0x" ++ String.ofList (Nat.toDigits 16 a.toNat)

/-!
## The checked operations are exact
-/

theorem add?_eq_some_iff {a b c : Word} :
    add? a b = some c ↔ c.toNat = a.toNat + b.toNat := by
  have hc : c.toNat < UInt64.size := c.toNat_lt
  by_cases h : a.toNat + b.toNat < UInt64.size
  · rw [add?, if_pos h, Option.some.injEq, ← UInt64.toNat_inj, UInt64.toNat_add,
      Nat.mod_eq_of_lt h]
    exact eq_comm
  · rw [add?, if_neg h]
    constructor
    · intro hnone; cases hnone
    · intro heq; omega

theorem add?_eq_none_iff {a b : Word} :
    add? a b = none ↔ UInt64.size ≤ a.toNat + b.toNat := by
  by_cases h : a.toNat + b.toNat < UInt64.size
  · rw [add?, if_pos h]
    constructor
    · intro hnone; cases hnone
    · intro hle; omega
  · rw [add?, if_neg h]
    exact ⟨fun _ => Nat.le_of_not_lt h, fun _ => rfl⟩

theorem sub?_eq_some_iff {a b c : Word} :
    sub? a b = some c ↔ c.toNat + b.toNat = a.toNat := by
  by_cases h : b ≤ a
  · have hle := UInt64.le_iff_toNat_le.mp h
    rw [sub?, if_pos h, Option.some.injEq, ← UInt64.toNat_inj,
      UInt64.toNat_sub_of_le _ _ h]
    omega
  · have hlt : a.toNat < b.toNat := by
      rw [UInt64.le_iff_toNat_le] at h
      omega
    rw [sub?, if_neg h]
    constructor
    · intro hnone; cases hnone
    · intro heq; omega

theorem sub?_eq_none_iff {a b : Word} :
    sub? a b = none ↔ a.toNat < b.toNat := by
  by_cases h : b ≤ a
  · have hle := UInt64.le_iff_toNat_le.mp h
    rw [sub?, if_pos h]
    constructor
    · intro hsome; cases hsome
    · intro hlt; omega
  · rw [UInt64.le_iff_toNat_le] at h
    rw [sub?, if_neg fun hle => h (UInt64.le_iff_toNat_le.mp hle)]
    exact ⟨fun _ => Nat.lt_of_not_le h, fun _ => rfl⟩

theorem mul?_eq_some_iff {a b c : Word} :
    mul? a b = some c ↔ c.toNat = a.toNat * b.toNat := by
  have hc : c.toNat < UInt64.size := c.toNat_lt
  by_cases h : a.toNat * b.toNat < UInt64.size
  · rw [mul?, if_pos h, Option.some.injEq, ← UInt64.toNat_inj, UInt64.toNat_mul,
      Nat.mod_eq_of_lt h]
    exact eq_comm
  · rw [mul?, if_neg h]
    constructor
    · intro hnone; cases hnone
    · intro heq; omega

end Word
end EntryStop
