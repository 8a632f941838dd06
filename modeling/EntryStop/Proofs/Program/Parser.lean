import EntryStop.Program.Parser

/-!
# The parser is lawful

It goes along the table once, so that the header with an index is found by how far the walk
has come.
-/

namespace EntryStop
namespace Image

theorem littleEndian_lt (bytes : List UInt8) :
    littleEndian bytes < Nat.pow 256 bytes.length := by
  induction bytes with
  | nil => exact Nat.one_pos
  | cons b bytes ih =>
      have hb : b.toNat < 256 := b.toNat_lt
      have step : Nat.pow 256 (bytes.length + 1) = Nat.pow 256 bytes.length * 256 := rfl
      rw [littleEndian, List.length_cons, step]
      omega

theorem number_two_lt (bytes : List UInt8) (offset : Nat) :
    number bytes offset 2 < UInt16.size := by
  have hlength : ((bytes.drop offset).take 2).length ≤ 2 := List.length_take_le 2 _
  have hpow : Nat.pow 256 ((bytes.drop offset).take 2).length ≤ Nat.pow 256 2 :=
    Nat.pow_le_pow_right (by decide) hlength
  exact Nat.lt_of_lt_of_le (littleEndian_lt _) hpow

namespace Parser

/-!
## The walk along the table
-/

section

variable (bytes : List UInt8) {count : Nat}

@[simp] theorem length_takeHeaders (index : Nat) (rest : List UInt8) :
    (takeHeaders bytes count index rest).length = count := by
  induction count generalizing index rest with
  | zero => rfl
  | succ count ih => rw [takeHeaders, List.length_cons, ih]

theorem getElem?_takeHeaders {i : Nat} (h : i < count) (index : Nat) (rest : List UInt8) :
    (takeHeaders bytes count index rest)[i]? =
      some (takeHeader bytes (index + i) (rest.drop (sectionHeaderSize * i))) := by
  induction count generalizing i index rest with
  | zero => exact absurd h (Nat.not_lt_zero i)
  | succ count ih =>
      cases i with
      | zero => rfl
      | succ i =>
          rw [takeHeaders, List.getElem?_cons_succ, ih (Nat.lt_of_succ_lt_succ h),
            List.drop_drop, Nat.mul_succ, Nat.add_comm sectionHeaderSize,
            Nat.add_right_comm, Nat.add_assoc index]

end

section

variable {bytes : List UInt8} {index : Nat}

theorem takeHeader_of_reserved (h : reservedIndex ≤ index) (rest : List UInt8) :
    takeHeader bytes index rest = .error .reservedSection := by
  exact if_pos h

theorem takeHeader_of_le {rest : List UInt8} (hindex : index < reservedIndex)
    (hrest : sectionHeaderSize ≤ rest.length) :
    takeHeader bytes index rest =
      if (tableOffset bytes).toNat % 8 ≠ 0 then .error .misalignedTable
      else .ok (headerAt (rest.take sectionHeaderSize)) := by
  have hlength : ¬ (rest.take sectionHeaderSize).length < sectionHeaderSize := by
    rw [List.length_take, Nat.min_eq_left hrest]
    exact Nat.lt_irrefl _
  have hstart : ((tableOffset bytes).toNat + sectionHeaderSize * index) % 8 =
      (tableOffset bytes).toNat % 8 := by
    unfold sectionHeaderSize
    omega
  simp only [takeHeader, if_neg (Nat.not_le_of_lt hindex), if_neg hlength, hstart]

theorem getElem?_headers (h : index < sectionCount bytes) :
    (headers bytes)[index]? = some (takeHeader bytes index
      (bytes.drop ((tableOffset bytes).toNat + sectionHeaderSize * index))) := by
  rw [headers, getElem?_takeHeaders bytes h, List.drop_drop, Nat.zero_add]

end

/-!
## The laws
-/

section

variable {bytes : List UInt8}

theorem describes_wideFile (bytes : List UInt8) : (wideFile bytes).Describes bytes where
  cls := rfl
  entry := rfl
  tableOffset := rfl
  headerSize := UInt16.toNat_ofNat_of_lt' (number_two_lt bytes 58)
  count := UInt16.toNat_ofNat_of_lt' (number_two_lt bytes 60)

theorem standard_of_isImage (h : IsImage bytes) : standard bytes = .ok (wideFile bytes) := by
  have hlength := h.length
  have hlong : ¬ bytes.length < 16 := by
    unfold headerSize at hlength
    omega
  rw [standard, if_neg hlong, if_neg (fun hmagic => hmagic h.magic), if_pos h.wide,
    if_neg (Nat.not_lt_of_le hlength)]

theorem isImage_of_standard {p : Parsed} (hparse : standard bytes = .ok p)
    (hclass : p.cls = .sixtyFour) : IsImage bytes := by
  unfold standard at hparse
  split at hparse
  · cases hparse
  · split at hparse
    · cases hparse
    · next hmagic =>
        split at hparse
        · next hwide =>
            split at hparse
            · cases hparse
            · next hlength =>
                exact ⟨Nat.le_of_not_lt hlength, Decidable.not_not.mp hmagic, hwide⟩
        · split at hparse
          · split at hparse
            · cases hparse
            · cases hparse
              cases hclass
          · cases hparse

theorem eq_wideFile {p : Parsed} (hparse : standard bytes = .ok p)
    (hclass : p.cls = .sixtyFour) : p = wideFile bytes := by
  have hwide := standard_of_isImage (isImage_of_standard hparse hclass)
  cases hparse.symm.trans hwide
  rfl

theorem lt_sectionCount {index : Nat} (h : (wideFile bytes).HeaderInFile bytes index) :
    index < sectionCount bytes := by
  rw [← (describes_wideFile bytes).count]
  exact h.count

theorem le_length_drop {index : Nat} (h : (wideFile bytes).HeaderInFile bytes index) :
    sectionHeaderSize ≤
      (bytes.drop ((tableOffset bytes).toNat + sectionHeaderSize * index)).length := by
  have hfits : (tableOffset bytes).toNat + sectionHeaderSize * (index + 1) ≤ bytes.length :=
    h.fits
  rw [Nat.mul_succ] at hfits
  rw [List.length_drop]
  omega

end

theorem standard_lawful : standard.Lawful where
  header h := ⟨_, standard_of_isImage h, describes_wideFile _⟩
  image := isImage_of_standard
  length := by
    intro bytes p hparse hclass
    cases eq_wideFile hparse hclass
    rw [(describes_wideFile bytes).count]
    exact length_takeHeaders bytes 0 _
  reserved := by
    intro bytes p index hparse hclass hfile hreserved
    cases eq_wideFile hparse hclass
    exact (getElem?_headers (lt_sectionCount hfile)).trans
      (congrArg some (takeHeader_of_reserved hreserved _))
  misaligned := by
    intro bytes p index hparse hclass hfile hindex hmisaligned
    cases eq_wideFile hparse hclass
    exact (getElem?_headers (lt_sectionCount hfile)).trans
      (congrArg some ((takeHeader_of_le hindex (le_length_drop hfile)).trans
        (if_pos hmisaligned)))
  aligned := by
    intro bytes p index hparse hclass hfile hindex haligned
    cases eq_wideFile hparse hclass
    exact (getElem?_headers (lt_sectionCount hfile)).trans
      (congrArg some ((takeHeader_of_le hindex (le_length_drop hfile)).trans
        (if_neg (fun h => h haligned))))

end Parser
end Image
end EntryStop
