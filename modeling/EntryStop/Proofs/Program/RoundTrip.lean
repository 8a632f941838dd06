import EntryStop.Program.Encode
import EntryStop.Proofs.Program.Parser
import EntryStop.Proofs.Program.Reading

/-!
# Reading what has been written

An image that was written with an entry and sections is read as that entry and those
sections, whatever its free bytes hold.
-/

namespace EntryStop
namespace Image

/-!
## Fields
-/

section

variable {bytes field after : List UInt8} (before : List UInt8) {offset width : Nat}

theorem number_of_append (hbytes : bytes = before ++ (field ++ after))
    (hbefore : before.length = offset) (hfield : field.length = width) :
    number bytes offset width = littleEndian field := by
  subst hbytes hbefore hfield
  rw [number, List.drop_left, List.take_left]

theorem word_of_append {w : Word} (hbytes : bytes = before ++ (wordBytes w ++ after))
    (hbefore : before.length = offset) : word bytes offset = w := by
  rw [word, number_of_append before hbytes hbefore (length_bytesOf 8 w.toNat),
    ofNat_littleEndian_wordBytes]

theorem number_two_of_append {n : UInt16}
    (hbytes : bytes = before ++ (bytesOf 2 n.toNat ++ after))
    (hbefore : before.length = offset) : number bytes offset 2 = n.toNat := by
  have hn : n.toNat < Nat.pow 256 2 := n.toNat_lt
  rw [number_of_append before hbytes hbefore (length_bytesOf 2 n.toNat),
    littleEndian_bytesOf, Nat.mod_eq_of_lt hn]

end

/-!
## Headers
-/

section

variable (frame : Frame) (e : Address) (place : Word) (size count : UInt16)
  (rest : List UInt8)

theorem isImage_encodeHeader :
    IsImage (encodeHeader frame e place size count ++ rest) where
  length := by
    rw [List.length_append, length_encodeHeader]
    exact Nat.le_add_right _ _
  magic := by
    simp [encodeHeader, magic]
  wide := by
    have hbytes : encodeHeader frame e place size count ++ rest =
        magic ++ ([2] ++ (encodeHeader frame e place size count ++ rest).drop 5) := by
      simp [encodeHeader, magic]
    exact number_of_append _ hbytes rfl rfl

theorem entry_encodeHeader :
    entry (encodeHeader frame e place size count ++ rest) = e := by
  apply word_of_append (magic ++ [2] ++ frame.ident.toList)
  · simp only [encodeHeader, List.append_assoc]
    rfl
  · simp [magic]

theorem tableOffset_encodeHeader :
    tableOffset (encodeHeader frame e place size count ++ rest) = place := by
  apply word_of_append (magic ++ [2] ++ frame.ident.toList ++ wordBytes e ++
    frame.segments.toList)
  · simp only [encodeHeader, List.append_assoc]
    rfl
  · simp [magic, wordBytes]

theorem sectionSize_encodeHeader :
    sectionSize (encodeHeader frame e place size count ++ rest) = size.toNat := by
  apply number_two_of_append (magic ++ [2] ++ frame.ident.toList ++ wordBytes e ++
    frame.segments.toList ++ wordBytes place ++ frame.flags.toList)
  · simp only [encodeHeader, List.append_assoc]
    rfl
  · simp [magic, wordBytes]

theorem sectionCount_encodeHeader :
    sectionCount (encodeHeader frame e place size count ++ rest) = count.toNat := by
  apply number_two_of_append (magic ++ [2] ++ frame.ident.toList ++ wordBytes e ++
    frame.segments.toList ++ wordBytes place ++ frame.flags.toList ++ bytesOf 2 size.toNat)
  · simp only [encodeHeader, List.append_assoc]
    rfl
  · simp [magic, wordBytes]

theorem read_encodeHeader {parse : Parser} (lawful : parse.Lawful)
    (h : place = 0 ∨ count = 0) :
    read parse (encodeHeader frame e place size count ++ rest) = .ok ⟨e, []⟩ := by
  have htable : hasTable (encodeHeader frame e place size count ++ rest) = false := by
    rw [hasTable_eq_false_iff, tableOffset_encodeHeader, sectionCount_encodeHeader]
    rcases h with hplace | hcount
    · exact Or.inl hplace
    · exact Or.inr (congrArg UInt16.toNat hcount)
  rw [read_of_no_table lawful (isImage_encodeHeader frame e place size count rest) htable,
    entry_encodeHeader]

end

/-!
## Sections
-/

theorem sectionAt_encodeSection (frame : SectionFrame) (s : Section) :
    sectionAt (encodeSection frame s) = s := by
  have haddr : word (encodeSection frame s) 16 = s.addr := by
    apply word_of_append (frame.before.toList)
    · simp only [encodeSection, List.append_assoc]
      rfl
    · simp
  have hoffset : word (encodeSection frame s) 24 = s.offset := by
    apply word_of_append (frame.before.toList ++ wordBytes s.addr)
    · simp only [encodeSection, List.append_assoc]
      rfl
    · simp [wordBytes]
  have hsize : word (encodeSection frame s) 32 = s.size := by
    apply word_of_append
      (frame.before.toList ++ wordBytes s.addr ++ wordBytes s.offset)
    · simp only [encodeSection, List.append_assoc]
      rfl
    · simp [wordBytes]
  rw [sectionAt, headerAt, haddr, hoffset, hsize, SectionHeader.toSection]

def encodeSections (sections : List (SectionFrame × Section)) : List UInt8 :=
  sections.flatMap fun (frame, s) => encodeSection frame s

theorem length_encodeSections (sections : List (SectionFrame × Section)) :
    (encodeSections sections).length = sectionHeaderSize * sections.length := by
  induction sections with
  | nil => rfl
  | cons head sections ih =>
      rw [encodeSections, List.flatMap_cons, List.length_append, length_encodeSection,
        List.length_cons, Nat.mul_succ, ← ih, encodeSections, Nat.add_comm]

theorem table_encodeSections (sections : List (SectionFrame × Section))
    (rest : List UInt8) :
    table sections.length (encodeSections sections ++ rest) = sections.map Prod.snd := by
  induction sections with
  | nil => rfl
  | cons head sections ih =>
      have hheader := length_encodeSection head.1 head.2
      rw [encodeSections, List.flatMap_cons, List.append_assoc, List.length_cons, table,
        List.take_left' hheader, List.drop_left' hheader, sectionAt_encodeSection]
      rw [encodeSections] at ih
      rw [ih, List.map_cons]

/-!
## Images
-/

section

variable (frame : Frame) (e : Address) (gap : List UInt8)
  (sections : List (SectionFrame × Section)) (rest : List UInt8)

theorem encode_eq : encode frame e gap sections rest =
    encodeHeader frame e (UInt64.ofNat (headerSize + gap.length))
        (UInt16.ofNat sectionHeaderSize) (UInt16.ofNat sections.length) ++
      (gap ++ (encodeSections sections ++ rest)) := by
  simp only [encode, encodeSections, List.append_assoc]

variable {gap sections} (hplace : headerSize + gap.length < UInt64.size)
  (hcount : sections.length ≤ reservedIndex)

include hplace in
theorem tableOffset_encode :
    (tableOffset (encode frame e gap sections rest)).toNat = headerSize + gap.length := by
  rw [encode_eq, tableOffset_encodeHeader, UInt64.toNat_ofNat_of_lt' hplace]

include hcount in
theorem sectionCount_encode :
    sectionCount (encode frame e gap sections rest) = sections.length := by
  have hlt : sections.length < UInt16.size := Nat.lt_of_le_of_lt hcount (by decide)
  rw [encode_eq, sectionCount_encodeHeader, UInt16.toNat_ofNat_of_lt' hlt]

include hplace hcount in
theorem tableInFile_encode (hsections : sections ≠ []) :
    TableInFile (encode frame e gap sections rest) where
  image := by
    rw [encode_eq]
    exact isImage_encodeHeader ..
  table := by
    apply Bool.of_not_eq_false
    intro hfalse
    rcases hasTable_eq_false_iff.mp hfalse with hzero | hzero
    · have hoffset : (tableOffset (encode frame e gap sections rest)).toNat =
          headerSize + gap.length := tableOffset_encode frame e rest hplace
      rw [hzero] at hoffset
      change 0 = 64 + gap.length at hoffset
      omega
    · rw [sectionCount_encode frame e rest hcount] at hzero
      exact hsections (List.length_eq_zero_iff.mp hzero)
  size := by
    rw [encode_eq, sectionSize_encodeHeader]
    rfl
  fits := by
    rw [tableEnd, tableOffset_encode frame e rest hplace,
      sectionCount_encode frame e rest hcount, encode_eq]
    simp only [List.length_append, length_encodeHeader, length_encodeSections]
    omega

include hplace hcount in
theorem read_encode {parse : Parser} (lawful : parse.Lawful)
    (haligned : (headerSize + gap.length) % 8 = 0) :
    read parse (encode frame e gap sections rest) = .ok ⟨e, sections.map Prod.snd⟩ := by
  by_cases hsections : sections = []
  · subst hsections
    rw [encode_eq]
    exact read_encodeHeader _ _ _ _ _ _ lawful (Or.inr rfl)
  · have hfile := tableInFile_encode frame e rest hplace hcount hsections
    have hentry : entry (encode frame e gap sections rest) = e := by
      rw [encode_eq, entry_encodeHeader]
    have hdrop : (encode frame e gap sections rest).drop (headerSize + gap.length) =
        encodeSections sections ++ rest := by
      rw [encode_eq, ← List.append_assoc, List.drop_left']
      rw [List.length_append, length_encodeHeader]
    rw [read_of_table lawful hfile, tableSections, hentry,
      tableOffset_encode frame e rest hplace, sectionCount_encode frame e rest hcount,
      if_neg (by omega), if_neg (Nat.not_lt_of_le hcount), hdrop, table_encodeSections]

end

/-- Reading undoes writing, whatever lawful parser is used: an image with a section table
gives its entry and its sections back, and an image without one gives its entry and no
sections. -/
theorem read_written {parse : Parser} (lawful : parse.Lawful) :
    (forall (frame : Frame) (e : Address) (gap : List UInt8)
        (sections : List (SectionFrame × Section)) (rest : List UInt8),
      (headerSize + gap.length) % 8 = 0 ->
      headerSize + gap.length < UInt64.size ->
      sections.length ≤ reservedIndex ->
      read parse (encode frame e gap sections rest) = .ok ⟨e, sections.map Prod.snd⟩) ∧
    (forall (frame : Frame) (e : Address) (place : Word) (size count : UInt16)
        (rest : List UInt8),
      place = 0 ∨ count = 0 ->
      read parse (encodeHeader frame e place size count ++ rest) = .ok ⟨e, []⟩) := by
  constructor
  · intro frame e gap sections rest haligned hplace hcount
    exact read_encode frame e rest hplace hcount lawful haligned
  · intro frame e place size count rest h
    exact read_encodeHeader frame e place size count rest lawful h

theorem read_written_two_sections :
    Parser.standard.Lawful ∧
    (headerSize + 8) % 8 = 0 ∧ headerSize + 8 < UInt64.size ∧ 2 ≤ reservedIndex ∧
    read .standard (encode .zero 0x2100 (List.replicate 8 0xFF)
      [(.zero, ⟨0x1000, 0x100, 0x1000⟩), (.zero, ⟨0x2040, 0x500, 0x1040⟩)] [0x7F]) =
        .ok ⟨0x2100, [⟨0x1000, 0x100, 0x1000⟩, ⟨0x2040, 0x500, 0x1040⟩]⟩ ∧
    read .standard (encodeHeader .zero 0x2100 0 7 3 ++ [0x7F]) = .ok ⟨0x2100, []⟩ :=
  ⟨Parser.standard_lawful, by decide, by decide, by decide,
    (read_written Parser.standard_lawful).left .zero 0x2100 (List.replicate 8 0xFF)
      [(.zero, ⟨0x1000, 0x100, 0x1000⟩), (.zero, ⟨0x2040, 0x500, 0x1040⟩)] [0x7F]
      (by decide) (by decide) (by decide),
    (read_written Parser.standard_lawful).right .zero 0x2100 0 7 3 [0x7F] (Or.inl rfl)⟩

end Image
end EntryStop
