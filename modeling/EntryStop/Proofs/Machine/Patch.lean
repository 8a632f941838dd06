import EntryStop.Machine.Arch

/-!
# Patched words

A trap takes the place of the lowest bytes of a word, and the bytes above it stay as they are.
The mask between the two parts is made of bits, so bytes are compared bit by bit.
-/

namespace EntryStop

/-!
## The bytes of a word
-/

namespace Word

def byte (w : Word) (i : Nat) : UInt8 :=
  UInt8.ofNat (w.toNat >>> (8 * i))

theorem testBit_byte (w : Word) (i j : Nat) :
    (w.byte i).toNat.testBit j = (decide (j < 8) && w.toNat.testBit (8 * i + j)) := by
  rw [byte, UInt8.toNat_ofNat', Nat.testBit_mod_two_pow, Nat.testBit_shiftRight]

theorem testBit_of_width_le (w : Word) {k : Nat} (h : 64 ≤ k) :
    w.toNat.testBit k = false :=
  Nat.testBit_lt_two_pow (Nat.lt_of_lt_of_le w.toNat_lt (Nat.pow_le_pow_right (by decide) h))

theorem byte_eq_byte_iff {v w : Word} {i : Nat} :
    v.byte i = w.byte i ↔
      forall j, j < 8 -> v.toNat.testBit (8 * i + j) = w.toNat.testBit (8 * i + j) := by
  constructor
  · intro h j hj
    have hbit : (v.byte i).toNat.testBit j = (w.byte i).toNat.testBit j := by rw [h]
    rwa [testBit_byte, testBit_byte, decide_eq_true hj, Bool.true_and, Bool.true_and] at hbit
  · intro h
    apply UInt8.toNat.inj
    apply Nat.eq_of_testBit_eq
    intro j
    rw [testBit_byte, testBit_byte]
    by_cases hj : j < 8
    · rw [h j hj]
    · rw [decide_eq_false hj, Bool.false_and, Bool.false_and]

theorem eq_of_bytes {v w : Word} (h : forall i, i < 8 -> v.byte i = w.byte i) : v = w := by
  apply UInt64.toNat.inj
  apply Nat.eq_of_testBit_eq
  intro k
  by_cases hk : k < 64
  · have hbit := byte_eq_byte_iff.mp (h (k / 8) (by omega)) (k % 8) (Nat.mod_lt k (by decide))
    rwa [Nat.div_add_mod] at hbit
  · have hwidth : 64 ≤ k := Nat.le_of_not_lt hk
    rw [testBit_of_width_le v hwidth, testBit_of_width_le w hwidth]

end Word

namespace Arch

/-!
## The mask
-/

section

variable {arch : Arch}

theorem toNat_maskWidth (h : arch.trapLength < 8) :
    (UInt64.ofNat (8 * arch.trapLength)).toNat = 8 * arch.trapLength := by
  have hwidth : 8 * arch.trapLength < 64 := by omega
  exact UInt64.toNat_ofNat_of_lt' (Nat.lt_trans hwidth (by decide))

theorem mul?_trapLength (h : arch.trapLength < 8) :
    Word.mul? (UInt64.ofNat arch.trapLength) 8 =
      some (UInt64.ofNat (8 * arch.trapLength)) := by
  have hlength : (UInt64.ofNat arch.trapLength).toNat = arch.trapLength :=
    UInt64.toNat_ofNat_of_lt' (Nat.lt_trans h (by decide))
  rw [Word.mul?_eq_some_iff, toNat_maskWidth h, hlength]
  exact Nat.mul_comm 8 arch.trapLength

theorem shiftLeft?_maskWidth (h : arch.trapLength < 8) (w : Word) :
    Word.shiftLeft? w (UInt64.ofNat (8 * arch.trapLength)) =
      some (w <<< UInt64.ofNat (8 * arch.trapLength)) := by
  have hwidth : (UInt64.ofNat (8 * arch.trapLength)).toNat < 64 := by
    rw [toNat_maskWidth h]
    omega
  rw [Word.shiftLeft?, if_pos hwidth]

variable (arch)

theorem testBit_keepMask (k : Nat) :
    arch.keepMask.toNat.testBit k = decide (8 * arch.trapLength ≤ k ∧ k < 64) := by
  by_cases hlength : arch.trapLength ≥ 8
  · have hnone : ¬ (8 * arch.trapLength ≤ k ∧ k < 64) := by omega
    rw [keepMask, if_pos hlength, decide_eq_false hnone]
    exact Nat.zero_testBit k
  · have hwidth : 8 * arch.trapLength < 64 := by omega
    have hgreatest : Word.greatest.toNat = 2 ^ 64 - 1 := rfl
    rw [keepMask, if_neg hlength, UInt64.toNat_shiftLeft,
      toNat_maskWidth (Nat.lt_of_not_le hlength), Nat.mod_eq_of_lt hwidth, hgreatest,
      Nat.testBit_mod_two_pow, Nat.testBit_shiftLeft, Nat.testBit_two_pow_sub_one,
      ← Bool.decide_and, ← Bool.decide_and]
    apply decide_eq_decide.mpr
    omega

theorem checkedKeepMask_eq_ok : arch.checkedKeepMask = .ok arch.keepMask := by
  by_cases hlength : arch.trapLength ≥ 8
  · rw [checkedKeepMask, if_pos hlength, keepMask, if_pos hlength]
  · have hlt : arch.trapLength < 8 := Nat.lt_of_not_le hlength
    simp only [checkedKeepMask, keepMask, if_neg hlength, mul?_trapLength hlt,
      shiftLeft?_maskWidth hlt]

theorem checkedPatch_eq_ok (word : Word) : arch.checkedPatch word = .ok (arch.patch word) := by
  rw [checkedPatch, checkedKeepMask_eq_ok]
  rfl

end

/-!
## The patched word
-/

/-- The trap lies in the bytes that it takes in a word. -/
def TrapFits (arch : Arch) : Prop :=
  arch.trap.toNat < Nat.pow 2 (8 * arch.trapLength)

instance (arch : Arch) : Decidable arch.TrapFits :=
  inferInstanceAs (Decidable (_ < _))

section

variable {arch : Arch}

theorem TrapFits.testBit_trap (h : arch.TrapFits) {k : Nat} (hk : 8 * arch.trapLength ≤ k) :
    arch.trap.toNat.testBit k = false :=
  Nat.testBit_lt_two_pow (Nat.lt_of_lt_of_le h (Nat.pow_le_pow_right (by decide) hk))

theorem testBit_patch (word : Word) (k : Nat) :
    (arch.patch word).toNat.testBit k =
      (word.toNat.testBit k && decide (8 * arch.trapLength ≤ k ∧ k < 64) ||
        arch.trap.toNat.testBit k) := by
  rw [patch, UInt64.toNat_or, UInt64.toNat_and, Nat.testBit_or, Nat.testBit_and,
    testBit_keepMask]

theorem byte_patch_of_lt (word : Word) {i : Nat} (hi : i < arch.trapLength) :
    (arch.patch word).byte i = arch.trap.byte i := by
  rw [Word.byte_eq_byte_iff]
  intro j hj
  have hlow : ¬ (8 * arch.trapLength ≤ 8 * i + j ∧ 8 * i + j < 64) := by omega
  rw [testBit_patch, decide_eq_false hlow, Bool.and_false, Bool.false_or]

theorem TrapFits.byte_patch_of_le (h : arch.TrapFits) (word : Word) {i : Nat}
    (hi : arch.trapLength ≤ i) : (arch.patch word).byte i = word.byte i := by
  rw [Word.byte_eq_byte_iff]
  intro j _
  have hhigh : 8 * arch.trapLength ≤ 8 * i + j := by omega
  rw [testBit_patch, h.testBit_trap hhigh, Bool.or_false]
  -- The mask ends with the word, but the word has no bits there either.
  by_cases hwidth : 8 * i + j < 64
  · rw [decide_eq_true ⟨hhigh, hwidth⟩, Bool.and_true]
  · rw [word.testBit_of_width_le (Nat.le_of_not_lt hwidth), Bool.false_and]

theorem TrapFits.patch_eq_patch_iff (h : arch.TrapFits) {v w : Word} :
    arch.patch v = arch.patch w ↔
      forall i, i < 8 -> arch.trapLength ≤ i -> v.byte i = w.byte i := by
  constructor
  · intro heq i _ hi
    rw [← h.byte_patch_of_le v hi, ← h.byte_patch_of_le w hi, heq]
  · intro hbytes
    apply Word.eq_of_bytes
    intro i hi
    by_cases hlow : i < arch.trapLength
    · rw [byte_patch_of_lt v hlow, byte_patch_of_lt w hlow]
    · have hhigh : arch.trapLength ≤ i := Nat.le_of_not_lt hlow
      rw [h.byte_patch_of_le v hhigh, h.byte_patch_of_le w hhigh, hbytes i hi hhigh]

theorem TrapFits.patch_patch (h : arch.TrapFits) (word : Word) :
    arch.patch (arch.patch word) = arch.patch word :=
  h.patch_eq_patch_iff.mpr fun _ _ hi => h.byte_patch_of_le word hi

end

/-- A trap that fits in its bytes, as those of both processors do, replaces exactly these bytes
of a word, none of them or all eight included.  So a patched word stays as it is when it is
patched again, and it tells only the bytes above the trap of the word below it.  No step of the
computation leaves the range of a word. -/
theorem patch_replaces_low_bytes :
    (x86_64.TrapFits ∧ aarch64.TrapFits) ∧
    forall arch : Arch, arch.TrapFits ->
      (forall (word : Word) (i : Nat), i < 8 ->
        (arch.patch word).byte i =
          if i < arch.trapLength then arch.trap.byte i else word.byte i) ∧
      (forall word : Word, arch.patch (arch.patch word) = arch.patch word) ∧
      (forall v w : Word, arch.patch v = arch.patch w ↔
        forall i, i < 8 -> arch.trapLength ≤ i -> v.byte i = w.byte i) ∧
      (forall word : Word, arch.checkedPatch word = .ok (arch.patch word)) := by
  refine ⟨⟨by decide, by decide⟩, ?_⟩
  intro arch h
  refine ⟨?_, h.patch_patch, fun v w => h.patch_eq_patch_iff, arch.checkedPatch_eq_ok⟩
  intro word i _
  by_cases hlow : i < arch.trapLength
  · rw [if_pos hlow, byte_patch_of_lt word hlow]
  · rw [if_neg hlow, h.byte_patch_of_le word (Nat.le_of_not_lt hlow)]

theorem patch_replaces_low_bytes_instruction :
    aarch64.TrapFits ∧
    aarch64.patch 0x1122334455667788 = 0x11223344D4200000 ∧
    (forall i, i < 8 ->
      (aarch64.patch 0x1122334455667788).byte i =
        if i < 4 then (0xD4200000 : Word).byte i
        else (0x1122334455667788 : Word).byte i) ∧
    aarch64.patch 0x1122334455667788 = aarch64.patch 0x11223344AABBCCDD ∧
    aarch64.checkedPatch 0x1122334455667788 = .ok 0x11223344D4200000 := by
  have hfits : aarch64.TrapFits := by decide
  have hvalue : aarch64.patch 0x1122334455667788 = 0x11223344D4200000 := by decide
  rcases patch_replaces_low_bytes.right aarch64 hfits with ⟨hbyte, _, hsame, hchecked⟩
  refine ⟨hfits, hvalue, hbyte 0x1122334455667788, (hsame _ _).mpr (by decide), ?_⟩
  rw [hchecked, hvalue]

end Arch
end EntryStop
