import EntryStop.Program.Entry
import EntryStop.Proofs.Machine.Results
import EntryStop.Proofs.Program.RoundTrip
import EntryStop.Proofs.Program.Sections

/-!
# Faults on the way to an entry

Reading an image is a fault exactly if its section table lies within the file and is
misaligned or reaches a reserved index.  Finding the entry of an image that has been read
is a fault exactly if the file offset of the entry does not fit in a word; no other step
of it can leave the words.
-/

namespace EntryStop
namespace Image

/-!
## Reading
-/

/-- Whatever the bytes are and whatever lawful parser is used, reading them gives an image or
an error, except for a table in the file that is misaligned or goes beyond the first reserved
index. -/
theorem read_eq_fault_iff {parse : Parser} (lawful : parse.Lawful) (bytes : List UInt8)
    (f : Fault) :
    read parse bytes = .error (.fault f) ↔
      TableInFile bytes ∧
        (f = .misalignedTable ∧ (tableOffset bytes).toNat % 8 ≠ 0 ∨
          f = .reservedSection ∧ (tableOffset bytes).toNat % 8 = 0 ∧
            reservedIndex < sectionCount bytes) := by
  constructor
  · intro hread
    rcases read_cases lawful bytes with ⟨e, hreported⟩ | ⟨himage, htable⟩ | hfile
    · exact nomatch hreported.symm.trans hread
    · exact nomatch (read_of_no_table lawful himage htable).symm.trans hread
    · refine ⟨hfile, ?_⟩
      rw [read_of_table lawful hfile] at hread
      split at hread
      · next hmisaligned =>
          cases hread
          exact Or.inl ⟨rfl, hmisaligned⟩
      · next haligned =>
          split at hread
          · next hreserved =>
              cases hread
              exact Or.inr ⟨rfl, Decidable.not_not.mp haligned, hreserved⟩
          · cases hread
  · rintro ⟨hfile, ⟨rfl, hmisaligned⟩ | ⟨rfl, haligned, hreserved⟩⟩
    · rw [read_of_table lawful hfile, if_pos hmisaligned]
    · rw [read_of_table lawful hfile, if_neg (fun h => h haligned), if_pos hreserved]

def misaligned : List UInt8 :=
  encode .zero 0x401000 [0] [(.zero, ⟨0, 0, 0⟩)] []

theorem tableInFile_misaligned : TableInFile misaligned :=
  tableInFile_encode _ _ _ (by decide) (by decide) (List.cons_ne_nil _ _)

theorem tableOffset_misaligned : (tableOffset misaligned).toNat % 8 ≠ 0 := by
  have hplace : headerSize + [(0 : UInt8)].length < UInt64.size := by decide
  rw [misaligned, tableOffset_encode _ _ _ hplace]
  decide

theorem read_eq_fault_iff_misaligned :
    Parser.standard.Lawful ∧ TableInFile misaligned ∧ (tableOffset misaligned).toNat % 8 ≠ 0 ∧
    (forall f, read .standard misaligned = .error (.fault f) ↔ f = .misalignedTable) := by
  refine ⟨Parser.standard_lawful, tableInFile_misaligned, tableOffset_misaligned, ?_⟩
  intro f
  rw [read_eq_fault_iff Parser.standard_lawful]
  constructor
  · rintro ⟨_, ⟨hf, _⟩ | ⟨_, haligned, _⟩⟩
    · exact hf
    · exact absurd haligned tableOffset_misaligned
  · intro hf
    exact ⟨tableInFile_misaligned, Or.inl ⟨hf, tableOffset_misaligned⟩⟩

theorem read_misaligned : read .standard misaligned = .error (.fault .misalignedTable) := by
  rw [read_of_table Parser.standard_lawful tableInFile_misaligned,
    if_pos tableOffset_misaligned]

/-- The images that can be read are those whose sections all have indices of their own. -/
theorem exists_read_eq_ok_iff {parse : Parser} (lawful : parse.Lawful) (info : EntryInfo) :
    (exists bytes, read parse bytes = .ok info) ↔
      info.sections.length ≤ reservedIndex := by
  constructor
  · rintro ⟨bytes, hread⟩
    rcases read_cases lawful bytes with ⟨e, hreported⟩ | ⟨himage, htable⟩ | hfile
    · exact nomatch hreported.symm.trans hread
    · cases (read_of_no_table lawful himage htable).symm.trans hread
      exact Nat.zero_le _
    · rw [read_of_table lawful hfile] at hread
      split at hread
      · cases hread
      · split at hread
        · cases hread
        · next hreserved =>
            cases hread
            rw [tableSections, length_table]
            exact Nat.le_of_not_lt hreserved
  · intro hcount
    let sections := info.sections.map (SectionFrame.zero, ·)
    have hsections : sections.map Prod.snd = info.sections := by
      rw [List.map_map]
      exact List.map_id _
    refine ⟨encode .zero info.entry [] sections [], ?_⟩
    rw [read_encode _ _ _ (by decide) (by simpa [sections] using hcount) lawful (by decide),
      hsections]

end Image

/-!
## The file offset of an entry
-/

theorem Section.fileOffset_eq_error_iff {s : Section} {a : Address} (h : s.Holds a)
    {f : Fault} :
    s.fileOffset a = .error f ↔
      f = .addOverflow ∧ UInt64.size ≤ a.toNat - s.addr.toNat + s.offset.toNat := by
  have hle : s.addr ≤ a := UInt64.le_iff_toNat_le.mpr h.left
  have hdistance : Word.sub? a s.addr = some (a - s.addr) := if_pos hle
  have hoverflow := Word.add?_eq_none_iff (a := a - s.addr) (b := s.offset)
  rw [UInt64.toNat_sub_of_le _ _ hle] at hoverflow
  rw [← hoverflow, fileOffset, hdistance]
  dsimp only
  cases Word.add? (a - s.addr) s.offset with
  | none =>
      constructor
      · intro herror
        exact ⟨(Except.error.inj herror).symm, rfl⟩
      · rintro ⟨rfl, _⟩
        rfl
  | some offset =>
      constructor
      · intro herror
        cases herror
      · rintro ⟨_, hnone⟩
        cases hnone

def EntryInfo.Overflows (info : EntryInfo) : Prop :=
  exists s, info.EntersIn s ∧
    UInt64.size ≤ info.entry.toNat - s.addr.toNat + s.offset.toNat

theorem EntryInfo.fileOffset_eq_error_iff {info : EntryInfo} {f : Fault} :
    info.fileOffset = .error f ↔ f = .addOverflow ∧ info.Overflows := by
  cases hfind : info.sections.find? fun s => s.contains info.entry with
  | none =>
      have hnowhere (s : Section) : ¬ info.EntersIn s := by
        rw [← find?_contains_eq_some_iff, hfind]
        exact nofun
      constructor
      · -- With no section to go through, the offset is the entry itself or none.
        intro herror
        simp only [fileOffset, hfind] at herror
        split at herror <;> cases herror
      · rintro ⟨_, s, henters, _⟩
        exact absurd henters (hnowhere s)
  | some s =>
      have henters : info.EntersIn s := find?_contains_eq_some_iff.mp hfind
      have hoffset := fileOffset_of_entersIn henters
      have hoverflows : info.Overflows ↔
          UInt64.size ≤ info.entry.toNat - s.addr.toNat + s.offset.toNat := by
        constructor
        · rintro ⟨r, hr, hsize⟩
          rw [← find?_contains_eq_some_iff, hfind] at hr
          cases hr
          exact hsize
        · exact fun hsize => ⟨s, henters, hsize⟩
      rcases henters with ⟨_, _, _, hholds, _⟩
      rw [hoffset, hoverflows, map_eq_error_iff, Section.fileOffset_eq_error_iff hholds]

theorem Entry.address_eq_error_iff {m : Mapping} {info : EntryInfo} {f : Fault} :
    Entry.address m info = .error f ↔ info.fileOffset = .error f := by
  exact map_eq_error_iff

/-- The file offset of an entry, and its address in a mapping of the file, are faults
exactly if the offset does not fit in a word.  The images that can have such an entry are
not restricted: all with few enough sections can be read. -/
theorem entry_fault_iff (m : Mapping) (info : EntryInfo) (f : Fault) :
    (info.fileOffset = .error f ↔ f = .addOverflow ∧ info.Overflows) ∧
    (Entry.address m info = .error f ↔ f = .addOverflow ∧ info.Overflows) ∧
    (forall parse : Image.Parser, parse.Lawful ->
      ((exists bytes, Image.read parse bytes = .ok info) ↔
        info.sections.length ≤ Image.reservedIndex)) := by
  refine ⟨EntryInfo.fileOffset_eq_error_iff, ?_, ?_⟩
  · rw [Entry.address_eq_error_iff]
    exact EntryInfo.fileOffset_eq_error_iff
  · intro parse lawful
    exact Image.exists_read_eq_ok_iff lawful info

def overflowing : EntryInfo :=
  ⟨0x10, [⟨0, 0x20, 0xFFFFFFFFFFFFFFF8⟩]⟩

theorem overflows_overflowing : overflowing.Overflows := by
  refine ⟨⟨0, 0x20, 0xFFFFFFFFFFFFFFF8⟩, ?_, by decide⟩
  exact EntryInfo.find?_contains_eq_some_iff.mp rfl

/-- The faults are met by an image that can be read. -/
theorem entry_fault_iff_overflowing :
    Image.Parser.standard.Lawful ∧ overflowing.Overflows ∧
    overflowing.sections.length ≤ Image.reservedIndex ∧
    (exists bytes, Image.read .standard bytes = .ok overflowing) ∧
    overflowing.fileOffset = .error .addOverflow ∧
    Entry.address ⟨0, 0x1000, true, false, true, 0, ""⟩ overflowing = .error .addOverflow := by
  have hcount : overflowing.sections.length ≤ Image.reservedIndex := by decide
  rcases entry_fault_iff ⟨0, 0x1000, true, false, true, 0, ""⟩ overflowing .addOverflow with
    ⟨hoffset, haddress, hreachable⟩
  exact ⟨Image.Parser.standard_lawful, overflows_overflowing, hcount,
    (hreachable .standard Image.Parser.standard_lawful).mpr hcount,
    hoffset.mpr ⟨rfl, overflows_overflowing⟩, haddress.mpr ⟨rfl, overflows_overflowing⟩⟩

theorem entry_faults_of_overflowing :
    Image.read .standard
        (Image.encode .zero 0x10 [] [(.zero, ⟨0, 0x20, 0xFFFFFFFFFFFFFFF8⟩)] []) =
      .ok overflowing ∧
    overflowing.fileOffset = .error .addOverflow ∧
    forall m, Entry.address m overflowing = .error .addOverflow := by
  refine ⟨?_, rfl, fun m => rfl⟩
  exact Image.read_encode _ _ _ (by decide) (by decide) Image.Parser.standard_lawful
    (by decide)

end EntryStop
