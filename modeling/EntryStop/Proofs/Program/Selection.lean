import EntryStop.Proofs.Program.Sections

/-!
# The choice of a section

The entry of an image is taken through the earliest section of the table that holds it.  If
it lies in one place of the table only, neither the order of the table nor the sections
elsewhere have a part in the choice.
-/

namespace EntryStop

def Section.exactOffset (s : Section) (a : Address) : Int :=
  a.toNat - s.addr.toNat + s.offset.toNat

instance (s : Section) (a : Address) : Decidable (s.Holds a) :=
  inferInstanceAs (Decidable (_ ∧ _))

namespace EntryInfo

/-- The entry lies in the section, and in no other place of the table. -/
def EntersOnlyIn (info : EntryInfo) (s : Section) : Prop :=
  exists before after, info.sections = before ++ s :: after ∧
    s.Holds info.entry ∧ forall r, r ∈ before ++ after -> ¬ r.Holds info.entry

/-!
## The file offset of the chosen section
-/

theorem fileOffset_eq_none_iff {info : EntryInfo} (hsections : info.sections ≠ []) :
    info.fileOffset = .ok none ↔
      forall s, s ∈ info.sections -> ¬ s.Holds info.entry := by
  have hempty : info.sections.isEmpty = false := List.isEmpty_eq_false_iff.mpr hsections
  cases hfind : info.sections.find? fun s => s.contains info.entry with
  | none =>
      have hnone := List.find?_eq_none.mp hfind
      simp only [Section.contains_eq_true_iff] at hnone
      constructor
      · intro _
        exact hnone
      · intro _
        simp only [fileOffset, hfind, hempty]
        rfl
  | some s =>
      have henters : info.EntersIn s := find?_contains_eq_some_iff.mp hfind
      constructor
      · intro hoffset
        rw [fileOffset_of_entersIn henters] at hoffset
        cases hsection : s.fileOffset info.entry with
        | error fault =>
            rw [hsection] at hoffset
            cases hoffset
        | ok f =>
            rw [hsection] at hoffset
            cases hoffset
      · intro hnowhere
        rcases henters with ⟨_, _, _, hholds, _⟩
        exact absurd hholds (hnowhere s (List.mem_of_find?_eq_some hfind))

theorem fileOffset_eq_some_iff {info : EntryInfo} {s : Section} (h : info.EntersIn s)
    {f : Word} :
    info.fileOffset = .ok (some f) ↔ (f.toNat : Int) = s.exactOffset info.entry := by
  have hsection : info.fileOffset = .ok (some f) ↔ s.fileOffset info.entry = .ok f := by
    rw [fileOffset_of_entersIn h]
    cases s.fileOffset info.entry with
    | error fault => exact ⟨fun hok => (nomatch hok), fun hok => (nomatch hok)⟩
    | ok offset =>
        show Except.ok (some offset) = Except.ok (some f) ↔ _
        rw [Except.ok.injEq, Option.some.injEq, Except.ok.injEq]
  rcases h with ⟨_, _, _, hholds, _⟩
  have hle := hholds.left
  rw [hsection, Section.fileOffset_eq_ok_iff, Section.exactOffset]
  omega

theorem exists_fileOffset {info : EntryInfo} {s : Section} (h : info.EntersIn s)
    (hfits : s.exactOffset info.entry < UInt64.size) :
    exists f : Word, (f.toNat : Int) = s.exactOffset info.entry := by
  rcases h with ⟨_, _, _, hholds, _⟩
  have hnonneg : 0 ≤ s.exactOffset info.entry := by
    have hle := hholds.left
    rw [Section.exactOffset]
    omega
  refine ⟨UInt64.ofNat (s.exactOffset info.entry).toNat, ?_⟩
  rw [UInt64.toNat_ofNat_of_lt' (by omega), Int.toNat_of_nonneg hnonneg]

/-!
## Other orders and other sections
-/

theorem EntersOnlyIn.entersIn {info : EntryInfo} {s : Section} (h : info.EntersOnlyIn s) :
    info.EntersIn s := by
  rcases h with ⟨before, after, hsections, hholds, hother⟩
  refine ⟨before, after, hsections, hholds, ?_⟩
  intro r hr
  exact hother r (List.mem_append_left after hr)

theorem EntersOnlyIn.perm {info : EntryInfo} {s : Section} (h : info.EntersOnlyIn s)
    {others table : List Section} (hothers : forall r, r ∈ others -> ¬ r.Holds info.entry)
    (hperm : table.Perm (info.sections ++ others)) :
    (EntryInfo.mk info.entry table).EntersOnlyIn s := by
  rcases h with ⟨before, after, hsections, hholds, hother⟩
  have hfront : table.Perm (s :: (before ++ after ++ others)) := by
    apply hperm.trans
    rw [hsections, List.append_assoc, List.append_assoc, List.cons_append]
    exact List.perm_middle
  have hmem : s ∈ table := hfront.mem_iff.mpr List.mem_cons_self
  rcases List.append_of_mem hmem with ⟨before', after', rfl⟩
  have hrest : (before' ++ after').Perm (before ++ after ++ others) :=
    (List.perm_middle.symm.trans hfront).cons_inv
  refine ⟨before', after', rfl, hholds, ?_⟩
  intro r hr
  rcases List.mem_append.mp (hrest.mem_iff.mp hr) with hold | hnew
  · exact hother r hold
  · exact hothers r hnew

/-- With sections, an entry has no file offset exactly if no section holds it, as ranges of
numbers.  Its offset is that of the earliest section that holds it, if it is a word.  If
only one place of the table holds it, every table with the same sections and others that do
not hold the entry gives the same offset, in whatever order. -/
theorem fileOffset_of_sections (info : EntryInfo) (hsections : info.sections ≠ []) :
    (info.fileOffset = .ok none ↔
      forall s, s ∈ info.sections -> ¬ s.Holds info.entry) ∧
    (forall s, info.EntersIn s -> s.exactOffset info.entry < UInt64.size ->
      exists f : Word, (f.toNat : Int) = s.exactOffset info.entry ∧
        info.fileOffset = .ok (some f)) ∧
    (forall s, info.EntersOnlyIn s -> s.exactOffset info.entry < UInt64.size ->
      exists f : Word, (f.toNat : Int) = s.exactOffset info.entry ∧
        forall others table, (forall r, r ∈ others -> ¬ r.Holds info.entry) ->
          table.Perm (info.sections ++ others) ->
          (EntryInfo.mk info.entry table).fileOffset = .ok (some f)) := by
  refine ⟨fileOffset_eq_none_iff hsections, ?_, ?_⟩
  · intro s henters hfits
    rcases exists_fileOffset henters hfits with ⟨f, hvalue⟩
    exact ⟨f, hvalue, (fileOffset_eq_some_iff henters).mpr hvalue⟩
  · intro s honly hfits
    rcases exists_fileOffset honly.entersIn hfits with ⟨f, hvalue⟩
    refine ⟨f, hvalue, ?_⟩
    intro others table hothers hperm
    exact (fileOffset_eq_some_iff (honly.perm hothers hperm).entersIn).mpr hvalue

-- With two sections that hold the entry the order of the table counts.
example :
    (EntryInfo.mk 0x1010 [⟨0x1000, 0x100, 0x1000⟩, ⟨0x1010, 0x10, 0x5000⟩]).fileOffset =
        .ok (some 0x1010) ∧
      (EntryInfo.mk 0x1010 [⟨0x1010, 0x10, 0x5000⟩, ⟨0x1000, 0x100, 0x1000⟩]).fileOffset =
        .ok (some 0x5000) :=
  ⟨rfl, rfl⟩

def topSection : Section :=
  ⟨0xFFFFFFFFFFFFF000, 0x10000, 0x1000⟩

/-- An image that is entered in it, at the address of an empty section. -/
def enteredAtTop : EntryInfo :=
  ⟨0xFFFFFFFFFFFFFF00, [⟨0xFFFFFFFFFFFFFF00, 0, 0x40⟩, topSection]⟩

theorem fileOffset_of_sections_enteredAtTop :
    enteredAtTop.sections ≠ [] ∧ enteredAtTop.EntersOnlyIn topSection ∧
      topSection.exactOffset enteredAtTop.entry < UInt64.size ∧
      exists f : Word, (f.toNat : Int) = topSection.exactOffset enteredAtTop.entry ∧
        forall others table, (forall r, r ∈ others -> ¬ r.Holds enteredAtTop.entry) ->
          table.Perm (enteredAtTop.sections ++ others) ->
          (EntryInfo.mk enteredAtTop.entry table).fileOffset = .ok (some f) := by
  have hempty : ¬ (Section.mk 0xFFFFFFFFFFFFFF00 0 0x40).Holds enteredAtTop.entry := by
    decide
  have honly : enteredAtTop.EntersOnlyIn topSection := by
    refine ⟨[⟨0xFFFFFFFFFFFFFF00, 0, 0x40⟩], [], rfl, by decide, ?_⟩
    intro r hr
    rw [List.mem_singleton.mp hr]
    exact hempty
  exact ⟨by decide, honly, by decide,
    (fileOffset_of_sections enteredAtTop (by decide)).right.right topSection honly
      (by decide)⟩

end EntryInfo
end EntryStop
