import EntryStop.Program.Layout
import EntryStop.Proofs.Machine.Results

/-!
# Reading an image

Whatever lawful parser is used, an image is read according to the fields of its header, and
its section table is read if it lies within the file.  The parser is then never asked for a
header behind the file's end, so that a table is read in full if it starts at a multiple of
eight and has no reserved index.
-/

namespace EntryStop
namespace Image

/-!
## Section tables
-/

def table : (count : Nat) -> List UInt8 -> List Section
  | 0, _ => []
  | count + 1, rest =>
      sectionAt (rest.take sectionHeaderSize) ::
        table count (rest.drop sectionHeaderSize)

@[simp] theorem length_table (count : Nat) (rest : List UInt8) :
    (table count rest).length = count := by
  induction count generalizing rest with
  | zero => rfl
  | succ count ih => rw [table, List.length_cons, ih]

theorem getElem?_table {count index : Nat} (rest : List UInt8) (h : index < count) :
    (table count rest)[index]? =
      some (sectionAt ((rest.drop (sectionHeaderSize * index)).take sectionHeaderSize)) := by
  induction count generalizing index rest with
  | zero => exact absurd h (Nat.not_lt_zero index)
  | succ count ih =>
      cases index with
      | zero => rfl
      | succ index =>
          rw [table, List.getElem?_cons_succ, ih _ (Nat.lt_of_succ_lt_succ h),
            List.drop_drop, Nat.mul_succ, Nat.add_comm sectionHeaderSize]

def tableEnd (bytes : List UInt8) : Nat :=
  (tableOffset bytes).toNat + sectionHeaderSize * sectionCount bytes

def hasTable (bytes : List UInt8) : Bool :=
  tableOffset bytes != 0 && sectionCount bytes != 0

def tableSections (bytes : List UInt8) : List Section :=
  table (sectionCount bytes) (bytes.drop (tableOffset bytes).toNat)

structure TableInFile (bytes : List UInt8) : Prop where
  image : IsImage bytes
  table : hasTable bytes = true
  size : sectionSize bytes = sectionHeaderSize
  fits : tableEnd bytes ≤ bytes.length

section

variable {bytes : List UInt8}

theorem hasTable_eq_false_iff :
    hasTable bytes = false ↔ tableOffset bytes = 0 ∨ sectionCount bytes = 0 := by
  simp only [hasTable, Bool.and_eq_false_iff, bne_eq_false_iff_eq]

theorem TableInFile.count_ne_zero (h : TableInFile bytes) : sectionCount bytes ≠ 0 := by
  intro hcount
  exact nomatch h.table.symm.trans (hasTable_eq_false_iff.mpr (Or.inr hcount))

theorem TableInFile.headers_le (h : TableInFile bytes) :
    sectionHeaderSize * sectionCount bytes ≤
      (bytes.drop (tableOffset bytes).toNat).length := by
  have hfits := h.fits
  unfold tableEnd at hfits
  rw [List.length_drop]
  omega

theorem getElem?_tableSections {index : Nat} (h : index < sectionCount bytes) :
    (tableSections bytes)[index]? = some (sectionAt (sectionHeader bytes index)) := by
  rw [tableSections, getElem?_table _ h, List.drop_drop, sectionHeader]

end

/-!
## What a parser hands out
-/

section

variable {parse : Parser} {bytes : List UInt8} {p : Parsed}

theorem Parsed.Describes.hasTable (h : p.Describes bytes) :
    p.hasTable = Image.hasTable bytes := by
  have hcount : (p.count != 0) = (sectionCount bytes != 0) := by
    rw [← h.count, Bool.eq_iff_iff, bne_iff_ne, bne_iff_ne]
    exact not_congr UInt16.toNat_inj.symm
  rw [Parsed.hasTable, h.tableOffset, hcount, Image.hasTable]

theorem Parsed.Describes.tableEnd (h : p.Describes bytes) :
    p.tableEnd = Image.tableEnd bytes := by
  rw [Parsed.tableEnd, h.tableOffset, h.count, Image.tableEnd]

theorem Parsed.Describes.headerInFile (h : p.Describes bytes) (hfile : TableInFile bytes)
    {index : Nat} (hindex : index < sectionCount bytes) : p.HeaderInFile bytes index where
  count := by
    rw [h.count]
    exact hindex
  size := h.headerSize.trans hfile.size
  fits := by
    have hfits := hfile.fits
    rw [Image.tableEnd] at hfits
    rw [h.tableOffset]
    unfold sectionHeaderSize at hfits ⊢
    omega

section

variable (lawful : parse.Lawful) (hparse : parse bytes = .ok p)
  (hdescribes : p.Describes bytes) (hfile : TableInFile bytes)
include lawful hparse hdescribes hfile

theorem Parsed.sections_of_misaligned (hmisaligned : (Image.tableOffset bytes).toNat % 8 ≠ 0) :
    p.sections = .error .misalignedTable := by
  have hpos : 0 < sectionCount bytes := Nat.pos_of_ne_zero hfile.count_ne_zero
  rw [← hdescribes.tableOffset] at hmisaligned
  have hhead := lawful.misaligned hparse hdescribes.cls
    (hdescribes.headerInFile hfile hpos) (by decide) hmisaligned
  rw [Parsed.sections]
  cases hheaders : p.headers with
  | nil => exact nomatch hheaders ▸ hhead
  | cons first rest =>
      rw [hheaders] at hhead
      cases hhead
      apply mapM_cons_of_error
      rfl

section

variable (haligned : (Image.tableOffset bytes).toNat % 8 = 0)
include haligned

theorem Parsed.getElem?_headers {index : Nat} (hindex : index < sectionCount bytes)
    (hreserved : index < reservedIndex) :
    p.headers[index]? = some (.ok (headerAt (sectionHeader bytes index))) := by
  rw [← hdescribes.tableOffset] at haligned
  exact lawful.aligned hparse hdescribes.cls (hdescribes.headerInFile hfile hindex)
    hreserved haligned

theorem Parsed.sections_of_aligned (hcount : sectionCount bytes ≤ reservedIndex) :
    p.sections = .ok (tableSections bytes) := by
  have hlength : p.headers.length = sectionCount bytes :=
    (lawful.length hparse hdescribes.cls).trans hdescribes.count
  apply mapM_eq_ok_iff.mpr
  apply List.ext_getElem?
  intro index
  rw [List.getElem?_map, List.getElem?_map]
  by_cases hindex : index < sectionCount bytes
  · rw [getElem?_headers lawful hparse hdescribes hfile haligned hindex
      (Nat.lt_of_lt_of_le hindex hcount), getElem?_tableSections hindex]
    rfl
  · rw [List.getElem?_eq_none (by omega),
      List.getElem?_eq_none (by rw [tableSections, length_table]; omega)]
    rfl

/-- A table that goes beyond the first reserved index is read up to there. -/
theorem Parsed.sections_of_reserved (hcount : reservedIndex < sectionCount bytes) :
    p.sections = .error .reservedSection := by
  have hinFile := hdescribes.headerInFile hfile hcount
  have hheader := lawful.reserved hparse hdescribes.cls hinFile (Nat.le_refl _)
  rcases List.getElem?_eq_some_iff.mp hheader with ⟨hlength, hreserved⟩
  apply mapM_eq_error_iff.mpr
  refine ⟨p.headers.take reservedIndex, p.headers[reservedIndex],
    p.headers.drop (reservedIndex + 1), ?_, ?_, ?_⟩
  · rw [← List.drop_eq_getElem_cons hlength, List.take_append_drop]
  · intro header hmem
    rcases List.mem_take_iff_getElem.mp hmem with ⟨index, hindex, rfl⟩
    have hlt : index < reservedIndex := by omega
    have hok := getElem?_headers lawful hparse hdescribes hfile haligned
      (Nat.lt_trans hlt hcount) hlt
    rcases List.getElem?_eq_some_iff.mp hok with ⟨_, hok⟩
    rw [hok]
    exact ⟨_, rfl⟩
  · rw [hreserved]
    rfl

end

end

end

/-!
## Images with and without a table
-/

section

variable {parse : Parser} {bytes : List UInt8} (lawful : parse.Lawful)
include lawful

theorem exists_error_of_not_isImage (h : ¬ IsImage bytes) :
    exists e, read parse bytes = .error (.reported e) := by
  cases hparse : parse bytes with
  | error reason => exact ⟨.unparsable reason, by rw [read, hparse]⟩
  | ok p =>
      have hclass : p.cls ≠ .sixtyFour := fun hclass => h (lawful.image hparse hclass)
      refine ⟨.not64Bit p.cls, ?_⟩
      rw [read, hparse]
      exact if_pos hclass

theorem read_of_isImage (himage : IsImage bytes) :
    exists p, parse bytes = .ok p ∧ p.Describes bytes ∧
      read parse bytes =
        if !hasTable bytes then .ok ⟨entry bytes, []⟩
        else if sectionSize bytes ≠ sectionHeaderSize then
          .error (.reported (.sectionSize p.headerSize))
        else if bytes.length < tableEnd bytes then
          .error (.reported (.tableBeyondEnd p.tableOffset p.count bytes.length))
        else (p.sections.mapError .fault).map (⟨entry bytes, ·⟩) := by
  rcases lawful.header himage with ⟨p, hparse, hdescribes⟩
  refine ⟨p, hparse, hdescribes, ?_⟩
  rw [read, hparse, ← hdescribes.hasTable, ← hdescribes.headerSize, ← hdescribes.tableEnd,
    ← hdescribes.entry]
  exact if_neg (fun hclass => hclass hdescribes.cls)

theorem read_of_no_table (himage : IsImage bytes) (htable : hasTable bytes = false) :
    read parse bytes = .ok ⟨entry bytes, []⟩ := by
  rcases read_of_isImage lawful himage with ⟨p, _, _, hread⟩
  rw [hread, htable]
  rfl

theorem read_of_hasTable (himage : IsImage bytes) (htable : hasTable bytes = true) :
    exists p, parse bytes = .ok p ∧ p.Describes bytes ∧
      read parse bytes =
        if sectionSize bytes ≠ sectionHeaderSize then
          .error (.reported (.sectionSize p.headerSize))
        else if bytes.length < tableEnd bytes then
          .error (.reported (.tableBeyondEnd p.tableOffset p.count bytes.length))
        else (p.sections.mapError .fault).map (⟨entry bytes, ·⟩) := by
  rcases read_of_isImage lawful himage with ⟨p, hparse, hdescribes, hread⟩
  rw [htable] at hread
  exact ⟨p, hparse, hdescribes, hread⟩

/-- The parser is not asked for a header behind the end of the file. -/
theorem read_of_table (h : TableInFile bytes) :
    read parse bytes =
      if (tableOffset bytes).toNat % 8 ≠ 0 then .error (.fault .misalignedTable)
      else if reservedIndex < sectionCount bytes then .error (.fault .reservedSection)
      else .ok ⟨entry bytes, tableSections bytes⟩ := by
  rcases read_of_hasTable lawful h.image h.table with ⟨p, hparse, hdescribes, hread⟩
  rw [hread, if_neg (fun hsize => hsize h.size), if_neg (Nat.not_lt_of_le h.fits)]
  by_cases hmisaligned : (tableOffset bytes).toNat % 8 ≠ 0
  · rw [if_pos hmisaligned,
      Parsed.sections_of_misaligned lawful hparse hdescribes h hmisaligned]
    rfl
  · have haligned : (tableOffset bytes).toNat % 8 = 0 := Decidable.not_not.mp hmisaligned
    rw [if_neg hmisaligned]
    by_cases hreserved : reservedIndex < sectionCount bytes
    · rw [if_pos hreserved,
        Parsed.sections_of_reserved lawful hparse hdescribes h haligned hreserved]
      rfl
    · rw [if_neg hreserved, Parsed.sections_of_aligned lawful hparse hdescribes h haligned
        (Nat.le_of_not_lt hreserved)]
      rfl

theorem exists_error_of_beyondEnd (himage : IsImage bytes) (htable : hasTable bytes = true)
    (hbeyond : bytes.length < tableEnd bytes) :
    exists e, read parse bytes = .error (.reported e) := by
  rcases read_of_hasTable lawful himage htable with ⟨p, _, _, hread⟩
  by_cases hsize : sectionSize bytes ≠ sectionHeaderSize
  · rw [if_pos hsize] at hread
    exact ⟨_, hread⟩
  · rw [if_neg hsize, if_pos hbeyond] at hread
    exact ⟨_, hread⟩

/-- What is not reported as an error has a table in the file or no table at all. -/
theorem read_cases (bytes : List UInt8) :
    (exists e, read parse bytes = .error (.reported e)) ∨
    (IsImage bytes ∧ hasTable bytes = false) ∨
    TableInFile bytes := by
  by_cases himage : IsImage bytes
  · cases htable : hasTable bytes with
    | false => exact Or.inr (Or.inl ⟨himage, rfl⟩)
    | true =>
        by_cases hsize : sectionSize bytes ≠ sectionHeaderSize
        · rcases read_of_hasTable lawful himage htable with ⟨p, _, _, hread⟩
          rw [if_pos hsize] at hread
          exact Or.inl ⟨_, hread⟩
        · by_cases hfits : bytes.length < tableEnd bytes
          · exact Or.inl (exists_error_of_beyondEnd lawful himage htable hfits)
          · exact Or.inr (Or.inr ⟨himage, htable, Decidable.not_not.mp hsize,
              Nat.le_of_not_lt hfits⟩)
  · exact Or.inl (exists_error_of_not_isImage lawful himage)

end

end Image
end EntryStop
