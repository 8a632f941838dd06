/-!
# Port ranges

The ports on which a child may wait for its controller.
-/

namespace EntryStop

structure PortRange where
  first : UInt16
  last : UInt16
  deriving DecidableEq, Repr

namespace PortRange

def standard : PortRange := ⟨38920, 38927⟩

/-- A port is compared in full, so that a number above all ports is in no range. -/
def contains (r : PortRange) (port : UInt32) : Bool :=
  r.first.toUInt32 ≤ port && port ≤ r.last.toUInt32

def text (r : PortRange) : String :=
  s!"{r.first.toNat}-{r.last.toNat}"

theorem contains_iff {r : PortRange} {port : UInt32} :
    r.contains port = true ↔
      r.first.toNat ≤ port.toNat ∧ port.toNat ≤ r.last.toNat := by
  simp [contains, UInt32.le_iff_toNat_le]

theorem lt_of_contains {r : PortRange} {port : UInt32}
    (h : r.contains port = true) : port.toNat < UInt16.size :=
  Nat.lt_of_le_of_lt (contains_iff.mp h).right r.last.toNat_lt

theorem toNat_toUInt16_of_contains {r : PortRange} {port : UInt32}
    (h : r.contains port = true) : port.toUInt16.toNat = port.toNat := by
  rw [UInt32.toNat_toUInt16]
  exact Nat.mod_eq_of_lt (lt_of_contains h)

end PortRange
end EntryStop
