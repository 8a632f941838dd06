import EntryStop.Program.Image

/-!
# The section of an entry

The sections of an image as ranges of numbers.  The entry of an image lies in the first
section that holds it, and its file offset is taken through that section.
-/

namespace EntryStop

/-- The addresses of a section as numbers; its end need not fit in a word. -/
def Section.Holds (s : Section) (a : Address) : Prop :=
  s.addr.toNat ≤ a.toNat ∧ a.toNat < s.addr.toNat + s.size.toNat

theorem Section.contains_eq_true_iff {s : Section} {a : Address} :
    s.contains a = true ↔ s.Holds a := by
  unfold contains Holds
  simp only [Bool.and_eq_true, decide_eq_true_eq]
  constructor
  · rintro ⟨hle, hlt⟩
    rw [UInt64.lt_iff_toNat_lt, UInt64.toNat_sub_of_le _ _ hle] at hlt
    rw [UInt64.le_iff_toNat_le] at hle
    omega
  · rintro ⟨hle, hlt⟩
    have hword : s.addr ≤ a := UInt64.le_iff_toNat_le.mpr hle
    refine ⟨hword, ?_⟩
    rw [UInt64.lt_iff_toNat_lt, UInt64.toNat_sub_of_le _ _ hword]
    omega

/-- The entry lies in the section, and in no section before it. -/
def EntryInfo.EntersIn (info : EntryInfo) (s : Section) : Prop :=
  exists before after, info.sections = before ++ s :: after ∧
    s.Holds info.entry ∧ forall r, r ∈ before -> ¬ r.Holds info.entry

theorem EntryInfo.find?_contains_eq_some_iff {info : EntryInfo} {s : Section} :
    (info.sections.find? fun s => s.contains info.entry) = some s ↔ info.EntersIn s := by
  rw [List.find?_eq_some_iff_append]
  simp only [Section.contains_eq_true_iff, Bool.not_eq_true', ← Bool.not_eq_true]
  constructor
  · rintro ⟨hholds, before, after, hsections, hbefore⟩
    exact ⟨before, after, hsections, hholds, hbefore⟩
  · rintro ⟨before, after, hsections, hholds, hbefore⟩
    exact ⟨hholds, before, after, hsections, hbefore⟩

theorem EntryInfo.fileOffset_of_entersIn {info : EntryInfo} {s : Section}
    (h : info.EntersIn s) : info.fileOffset = (s.fileOffset info.entry).map some := by
  have hfind := find?_contains_eq_some_iff.mpr h
  have hsections : info.sections.isEmpty = false := by
    rcases h with ⟨before, after, hsections, _⟩
    rw [hsections, List.isEmpty_eq_false_iff]
    exact List.append_ne_nil_of_right_ne_nil _ (List.cons_ne_nil _ _)
  simp only [fileOffset, hfind, hsections]
  rfl

theorem Section.fileOffset_eq_ok_iff {s : Section} {a : Address} {f : Word} :
    s.fileOffset a = .ok f ↔
      s.addr.toNat ≤ a.toNat ∧ f.toNat + s.addr.toNat = a.toNat + s.offset.toNat := by
  rw [fileOffset]
  cases hdistance : Word.sub? a s.addr with
  | none =>
      have hlt := Word.sub?_eq_none_iff.mp hdistance
      constructor
      · intro hok
        cases hok
      · intro h
        exact absurd h.left (Nat.not_le_of_lt hlt)
  | some distance =>
      have hexact := Word.sub?_eq_some_iff.mp hdistance
      dsimp only
      cases hoffset : Word.add? distance s.offset with
      | none =>
          have hsize := Word.add?_eq_none_iff.mp hoffset
          have hf := f.toNat_lt_size
          constructor
          · intro hok
            cases hok
          · intro h
            omega
      | some offset =>
          have hsum := Word.add?_eq_some_iff.mp hoffset
          rw [Except.ok.injEq, ← UInt64.toNat_inj]
          omega

end EntryStop
