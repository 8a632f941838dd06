import EntryStop.Proofs.Program.RoundTrip

/-!
# Images cut short and made longer

The fields of a header are the same in all files that begin alike, and so is a section table
as long as it lies within the file.  An image with sections can therefore be made longer
without being read otherwise, and it is not read at all if its table is cut.
-/

namespace EntryStop
namespace Image

/-!
## Files that begin alike
-/

section

variable {bytes rest : List UInt8}

theorem number_append {offset width : Nat} (h : offset + width ≤ bytes.length) :
    number (bytes ++ rest) offset width = number bytes offset width := by
  have hdrop : width ≤ (bytes.drop offset).length := by
    rw [List.length_drop]
    omega
  rw [number, List.drop_append_of_le_length (by omega), List.take_append_of_le_length hdrop,
    number]

section

variable (h : headerSize ≤ bytes.length)

include h

theorem entry_append : entry (bytes ++ rest) = entry bytes :=
  congrArg UInt64.ofNat (number_append (Nat.le_trans (by decide) h))

theorem tableOffset_append : tableOffset (bytes ++ rest) = tableOffset bytes :=
  congrArg UInt64.ofNat (number_append (Nat.le_trans (by decide) h))

theorem sectionSize_append : sectionSize (bytes ++ rest) = sectionSize bytes :=
  number_append (Nat.le_trans (by decide) h)

theorem sectionCount_append : sectionCount (bytes ++ rest) = sectionCount bytes :=
  number_append (Nat.le_trans (by decide) h)

theorem hasTable_append : hasTable (bytes ++ rest) = hasTable bytes := by
  rw [hasTable, tableOffset_append h, sectionCount_append h, hasTable]

theorem tableEnd_append : tableEnd (bytes ++ rest) = tableEnd bytes := by
  rw [tableEnd, tableOffset_append h, sectionCount_append h, tableEnd]

theorem isImage_append_iff : IsImage (bytes ++ rest) ↔ IsImage bytes := by
  have hlength : headerSize ≤ (bytes ++ rest).length := by
    rw [List.length_append]
    omega
  have hmagic : (bytes ++ rest).take 4 = bytes.take 4 :=
    List.take_append_of_le_length (Nat.le_trans (by decide) h)
  have hwide : number (bytes ++ rest) 4 1 = number bytes 4 1 :=
    number_append (Nat.le_trans (by decide) h)
  constructor
  · intro himage
    exact ⟨h, hmagic.symm.trans himage.magic, hwide.symm.trans himage.wide⟩
  · intro himage
    exact ⟨hlength, hmagic.trans himage.magic, hwide.trans himage.wide⟩

end

/-!
## Longer files
-/

theorem table_append {count : Nat} (h : sectionHeaderSize * count ≤ bytes.length) :
    table count (bytes ++ rest) = table count bytes := by
  induction count generalizing bytes with
  | zero => rfl
  | succ count ih =>
      rw [Nat.mul_succ] at h
      have hdrop : sectionHeaderSize * count ≤ (bytes.drop sectionHeaderSize).length := by
        rw [List.length_drop]
        omega
      rw [table, List.take_append_of_le_length (by omega),
        List.drop_append_of_le_length (by omega), ih hdrop, table]

theorem TableInFile.append (h : TableInFile bytes) : TableInFile (bytes ++ rest) where
  image := (isImage_append_iff h.image.length).mpr h.image
  table := (hasTable_append h.image.length).trans h.table
  size := (sectionSize_append h.image.length).trans h.size
  fits := by
    have hfits := h.fits
    rw [tableEnd_append h.image.length, List.length_append]
    omega

theorem tableSections_append (h : TableInFile bytes) :
    tableSections (bytes ++ rest) = tableSections bytes := by
  have hoffset : (tableOffset bytes).toNat ≤ bytes.length := by
    have hfits := h.fits
    rw [tableEnd] at hfits
    omega
  rw [tableSections, tableOffset_append h.image.length, sectionCount_append h.image.length,
    List.drop_append_of_le_length hoffset, table_append h.headers_le, tableSections]

theorem read_append {parse : Parser} (lawful : parse.Lawful) (h : TableInFile bytes) :
    read parse (bytes ++ rest) = read parse bytes := by
  rw [read_of_table lawful h.append, read_of_table lawful h, entry_append h.image.length,
    tableOffset_append h.image.length, sectionCount_append h.image.length,
    tableSections_append h]

/-!
## Shorter files
-/

theorem exists_error_of_cut {parse : Parser} (lawful : parse.Lawful)
    (h : TableInFile (bytes ++ rest)) (hcut : bytes.length < tableEnd (bytes ++ rest)) :
    exists e, read parse bytes = .error (.reported e) := by
  by_cases hlength : headerSize ≤ bytes.length
  · rw [tableEnd_append hlength] at hcut
    exact exists_error_of_beyondEnd lawful ((isImage_append_iff hlength).mp h.image)
      ((hasTable_append hlength).symm.trans h.table) hcut
  · exact exists_error_of_not_isImage lawful fun himage => hlength himage.length

end

/-!
## The headers of an image that has been read
-/

theorem tableInFile_of_read {parse : Parser} (lawful : parse.Lawful) {bytes : List UInt8}
    {info : EntryInfo} (hread : read parse bytes = .ok info) (hsections : info.sections ≠ []) :
    TableInFile bytes ∧ info.sections = tableSections bytes := by
  rcases read_cases lawful bytes with ⟨e, hreported⟩ | ⟨himage, htable⟩ | hfile
  · cases hreported.symm.trans hread
  · cases (read_of_no_table lawful himage htable).symm.trans hread
    exact absurd rfl hsections
  · rw [read_of_table lawful hfile] at hread
    split at hread
    · cases hread
    · split at hread
      · cases hread
      · cases hread
        exact ⟨hfile, rfl⟩

/-- An image that is read with sections has as many of them as its header tells, each from a
header that lies within the file.  If the image is cut anywhere before the end of its table,
reading it is an error.  Whatever is put behind the image, it is read alike. -/
theorem read_of_cut_or_longer {parse : Parser} (lawful : parse.Lawful) {bytes : List UInt8}
    {info : EntryInfo} (hread : read parse bytes = .ok info) (hsections : info.sections ≠ []) :
    sectionCount bytes = info.sections.length ∧
    (forall i, i < sectionCount bytes ->
      (tableOffset bytes).toNat + sectionHeaderSize * (i + 1) ≤ bytes.length ∧
        info.sections[i]? = some (sectionAt (sectionHeader bytes i))) ∧
    (forall start, start <+: bytes -> start.length < tableEnd bytes ->
      exists e, read parse start = .error (.reported e)) ∧
    (forall rest, read parse (bytes ++ rest) = .ok info) := by
  rcases tableInFile_of_read lawful hread hsections with ⟨hfile, htable⟩
  refine ⟨?_, ?_, ?_, ?_⟩
  · rw [htable, tableSections, length_table]
  · intro i hi
    constructor
    · have hfits := hfile.fits
      unfold tableEnd sectionHeaderSize at hfits
      unfold sectionHeaderSize
      omega
    · rw [htable, getElem?_tableSections hi]
  · rintro start ⟨rest, rfl⟩ hcut
    exact exists_error_of_cut lawful hfile hcut
  · intro rest
    rw [read_append lawful hfile, hread]

def twoSections : List UInt8 :=
  encode .zero 0x2100 (List.replicate 8 0xFF)
    [(.zero, ⟨0x1000, 0x100, 0x1000⟩), (.zero, ⟨0x2040, 0x500, 0x1040⟩)] [0x7F]

theorem read_of_cut_or_longer_twoSections :
    Parser.standard.Lawful ∧
    exists info, read .standard twoSections = .ok info ∧ info.sections ≠ [] ∧
      sectionCount twoSections = info.sections.length ∧
      (forall i, i < sectionCount twoSections ->
        (tableOffset twoSections).toNat + sectionHeaderSize * (i + 1) ≤
            twoSections.length ∧
          info.sections[i]? = some (sectionAt (sectionHeader twoSections i))) ∧
      (forall start, start <+: twoSections -> start.length < tableEnd twoSections ->
        exists e, read .standard start = .error (.reported e)) ∧
      (forall rest, read .standard (twoSections ++ rest) = .ok info) := by
  have hread : read .standard twoSections =
      .ok ⟨0x2100, [⟨0x1000, 0x100, 0x1000⟩, ⟨0x2040, 0x500, 0x1040⟩]⟩ :=
    read_encode _ _ _ (by decide) (by decide) Parser.standard_lawful (by decide)
  have hsections : [(⟨0x1000, 0x100, 0x1000⟩ : Section), ⟨0x2040, 0x500, 0x1040⟩] ≠ [] :=
    List.cons_ne_nil _ _
  exact ⟨Parser.standard_lawful, _, hread, hsections,
    read_of_cut_or_longer Parser.standard_lawful hread hsections⟩

end Image
end EntryStop
