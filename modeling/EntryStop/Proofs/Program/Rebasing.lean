import EntryStop.Program.Entry
import EntryStop.Proofs.Program.Selection

/-!
# Entries in a mapping

A mapping carries a file offset over to an address: forward by the start of the mapping,
back by the offset at which the mapping begins in the file.  The address is exact where
the step forward stays within the words.  Then it lies in the mapping exactly if the byte
at the file offset is mapped.
-/

namespace EntryStop

def Mapping.exactAddress (m : Mapping) (fileOffset : Word) : Int :=
  m.start.toNat + fileOffset.toNat - m.offset.toNat

/-- The address of a file offset is a word, but the step forward leaves the words. -/
def Mapping.LosesAddress (m : Mapping) (fileOffset : Word) : Prop :=
  UInt64.size ≤ m.start.toNat + fileOffset.toNat ∧ m.exactAddress fileOffset < UInt64.size

theorem Mapping.contains_eq_true_iff {m : Mapping} {a : Address} :
    m.contains a = true ↔ m.start.toNat ≤ a.toNat ∧ a.toNat < m.stop.toNat := by
  simp only [contains, Bool.and_eq_true, decide_eq_true_eq, UInt64.le_iff_toNat_le,
    UInt64.lt_iff_toNat_lt]

namespace Entry

/-!
## Rebasing
-/

section

variable {m : Mapping} {fileOffset : Word}

theorem rebase_eq_some_iff {a : Address} :
    rebase m fileOffset = some a ↔
      m.start.toNat + fileOffset.toNat < UInt64.size ∧
        (a.toNat : Int) = m.exactAddress fileOffset := by
  rw [rebase, Mapping.exactAddress]
  cases hsum : Word.add? m.start fileOffset with
  | none =>
      have hsize := Word.add?_eq_none_iff.mp hsum
      constructor
      · intro hsome
        cases hsome
      · intro h
        exact absurd h.left (Nat.not_lt_of_le hsize)
  | some sum =>
      have hexact := Word.add?_eq_some_iff.mp hsum
      have hlt := sum.toNat_lt_size
      rw [Option.bind_some, Word.sub?_eq_some_iff]
      omega

theorem rebase_eq_none_iff :
    rebase m fileOffset = none ↔
      UInt64.size ≤ m.start.toNat + fileOffset.toNat ∨ m.exactAddress fileOffset < 0 := by
  rw [rebase, Mapping.exactAddress]
  cases hsum : Word.add? m.start fileOffset with
  | none => exact ⟨fun _ => Or.inl (Word.add?_eq_none_iff.mp hsum), fun _ => rfl⟩
  | some sum =>
      have hexact := Word.add?_eq_some_iff.mp hsum
      have hlt := sum.toNat_lt_size
      rw [Option.bind_some, Word.sub?_eq_none_iff]
      omega

theorem rebase_exact_iff :
    (forall a, rebase m fileOffset = some a ↔
      (a.toNat : Int) = m.exactAddress fileOffset) ↔ ¬ m.LosesAddress fileOffset := by
  constructor
  · -- A lost address is a word, so an exact rebasing would give it.
    rintro hexact ⟨hsize, hlt⟩
    have hnonneg : 0 ≤ m.exactAddress fileOffset := by
      have hoffset := m.offset.toNat_lt_size
      rw [Mapping.exactAddress]
      omega
    let a := UInt64.ofNat (m.exactAddress fileOffset).toNat
    have ha : (a.toNat : Int) = m.exactAddress fileOffset := by
      rw [UInt64.toNat_ofNat_of_lt' (by omega), Int.toNat_of_nonneg hnonneg]
    have hsum := (rebase_eq_some_iff.mp ((hexact a).mpr ha)).left
    exact absurd hsum (Nat.not_lt_of_le hsize)
  · intro hkept a
    rw [rebase_eq_some_iff]
    constructor
    · exact fun h => h.right
    · intro ha
      refine ⟨Nat.lt_of_not_le fun hsize => hkept ⟨hsize, ?_⟩, ha⟩
      have hlt := a.toNat_lt_size
      omega

end

/-!
## The address of an entry
-/

section

variable {m : Mapping} {info : EntryInfo}

theorem address_of_fileOffset {f : Word} (h : info.fileOffset = .ok (some f)) :
    address m info = .ok (rebase m f) := by
  rw [address, h]
  rfl

theorem address_eq_some_iff {a : Address} :
    address m info = .ok (some a) ↔
      exists f, info.fileOffset = .ok (some f) ∧ rebase m f = some a := by
  constructor
  · intro haddress
    rcases hoffset : info.fileOffset with fault | _ | f
    · rw [address, hoffset] at haddress
      cases haddress
    · rw [address, hoffset] at haddress
      cases haddress
    · rw [address_of_fileOffset hoffset] at haddress
      exact ⟨f, rfl, Except.ok.inj haddress⟩
  · rintro ⟨f, hoffset, hrebase⟩
    rw [address_of_fileOffset hoffset, hrebase]

theorem address_eq_none_iff :
    address m info = .ok none ↔
      info.fileOffset = .ok none ∨
        exists f, info.fileOffset = .ok (some f) ∧ rebase m f = none := by
  constructor
  · intro haddress
    rcases hoffset : info.fileOffset with fault | _ | f
    · rw [address, hoffset] at haddress
      cases haddress
    · exact Or.inl rfl
    · rw [address_of_fileOffset hoffset] at haddress
      exact Or.inr ⟨f, rfl, Except.ok.inj haddress⟩
  · rintro (hoffset | ⟨f, hoffset, hrebase⟩)
    · rw [address, hoffset]
      rfl
    · rw [address_of_fileOffset hoffset, hrebase]

end

/-- An entry has an address exactly if its file offset, moved forward by the start of the
mapping, is a word, and is not before the offset of the mapping.  The address is exact.
One that would be a word is missing exactly if the mapping loses it. -/
theorem address_exact_unless_lost (m : Mapping) (info : EntryInfo) :
    (forall a, address m info = .ok (some a) ↔
      exists f, info.fileOffset = .ok (some f) ∧
        m.start.toNat + f.toNat < UInt64.size ∧ (a.toNat : Int) = m.exactAddress f) ∧
    (address m info = .ok none ↔
      info.fileOffset = .ok none ∨
        exists f, info.fileOffset = .ok (some f) ∧
          (UInt64.size ≤ m.start.toNat + f.toNat ∨ m.exactAddress f < 0)) ∧
    (forall f, info.fileOffset = .ok (some f) ->
      ((forall a, address m info = .ok (some a) ↔ (a.toNat : Int) = m.exactAddress f) ↔
        ¬ m.LosesAddress f)) := by
  refine ⟨fun a => ?_, ?_, fun f hoffset => ?_⟩
  · simp only [address_eq_some_iff, rebase_eq_some_iff]
  · simp only [address_eq_none_iff, rebase_eq_none_iff]
  · rw [address_of_fileOffset hoffset, ← rebase_exact_iff]
    simp only [Except.ok.injEq]

def highMapping : Mapping where
  start := 0xFFFFFFFFFFFF0000
  stop := 0xFFFFFFFFFFFFF000
  readable := true
  writable := false
  executable := true
  offset := 0x20000
  pathname := "/bin/fake"

/-- The entry of an image without sections that is mapped there has no address, although
its exact address is a word and lies in the mapping. -/
theorem address_lost_of_highMapping :
    (EntryInfo.mk 0x21000 []).fileOffset = .ok (some 0x21000) ∧
      ((0xFFFFFFFFFFFF1000 : Address).toNat : Int) = highMapping.exactAddress 0x21000 ∧
      highMapping.contains 0xFFFFFFFFFFFF1000 = true ∧
      address highMapping ⟨0x21000, []⟩ = .ok none :=
  ⟨rfl, by decide, by decide, rfl⟩

/-!
## Where the address lies
-/

theorem toNat_fileOffset {info : EntryInfo} {s : Section} {f : Word}
    (hoffset : info.fileOffset = .ok (some f)) (henters : info.EntersIn s) :
    (f.toNat : Int) = info.entry.toNat - s.addr.toNat + s.offset.toNat :=
  (EntryInfo.fileOffset_eq_some_iff henters).mp hoffset

/-- The address of an entry lies in the mapping exactly if the byte of the file at which
the program is entered is mapped.  If the section of the entry is loaded with a bias, the
address is the entry moved by that bias. -/
theorem contains_address_iff {m : Mapping} {info : EntryInfo} {f : Word} {a : Address}
    (hoffset : info.fileOffset = .ok (some f)) (haddress : address m info = .ok (some a)) :
    (m.contains a = true ↔
      (m.offset.toNat : Int) ≤ f.toNat ∧
        (f.toNat : Int) < m.offset.toNat + (m.stop.toNat - m.start.toNat)) ∧
    (forall s (bias : Int), info.EntersIn s ->
      (m.start.toNat : Int) - m.offset.toNat = bias + s.addr.toNat - s.offset.toNat ->
      (a.toNat : Int) = bias + info.entry.toNat) := by
  rw [address_of_fileOffset hoffset] at haddress
  have hexact := (rebase_eq_some_iff.mp (Except.ok.inj haddress)).right
  rw [Mapping.exactAddress] at hexact
  constructor
  · rw [Mapping.contains_eq_true_iff]
    omega
  · intro s bias henters hbias
    have hsection := toNat_fileOffset hoffset henters
    omega

def secondPage : Mapping where
  start := 0x555500001000
  stop := 0x555500005000
  readable := true
  writable := false
  executable := true
  offset := 0x1000
  pathname := "/bin/fake"

def enteredInSecond : EntryInfo :=
  ⟨0x2100, [⟨0x1000, 0x100, 0x1000⟩, ⟨0x2040, 0x500, 0x1040⟩]⟩

theorem contains_address_iff_secondPage :
    enteredInSecond.fileOffset = .ok (some 0x1100) ∧
      address secondPage enteredInSecond = .ok (some 0x555500001100) ∧
      (secondPage.contains 0x555500001100 = true ↔
        (secondPage.offset.toNat : Int) ≤ (0x1100 : Word).toNat ∧
          ((0x1100 : Word).toNat : Int) <
            secondPage.offset.toNat +
              (secondPage.stop.toNat - secondPage.start.toNat)) ∧
      (forall s (bias : Int), enteredInSecond.EntersIn s ->
        (secondPage.start.toNat : Int) - secondPage.offset.toNat =
          bias + s.addr.toNat - s.offset.toNat ->
        ((0x555500001100 : Address).toNat : Int) =
          bias + enteredInSecond.entry.toNat) :=
  ⟨rfl, rfl, contains_address_iff rfl rfl⟩

end Entry
end EntryStop
