import EntryStop.Program.Layout

/-!
# Writing program images

An image with a given entry and given sections.  The bytes that say nothing about
either are free; they are the frame of the image.
-/

namespace EntryStop
namespace Image

/-!
## Numbers
-/

def bytesOf : (width : Nat) -> Nat -> List UInt8
  | 0, _ => []
  | width + 1, n => UInt8.ofNat n :: bytesOf width (n / 256)

def wordBytes (w : Word) : List UInt8 :=
  bytesOf 8 w.toNat

@[simp] theorem length_bytesOf (width n : Nat) : (bytesOf width n).length = width := by
  induction width generalizing n with
  | zero => rfl
  | succ width ih => simp [bytesOf, ih]

theorem littleEndian_bytesOf (width n : Nat) :
    littleEndian (bytesOf width n) = n % Nat.pow 256 width := by
  induction width generalizing n with
  | zero => simp [bytesOf, littleEndian, Nat.mod_one]
  | succ width ih =>
      have step : Nat.pow 256 (width + 1) = 256 * Nat.pow 256 width := Nat.mul_comm _ _
      rw [step, bytesOf, littleEndian, ih, UInt8.toNat_ofNat']
      exact Nat.mod_mul.symm

theorem ofNat_littleEndian_wordBytes (w : Word) :
    UInt64.ofNat (littleEndian (wordBytes w)) = w := by
  have h : w.toNat < Nat.pow 256 8 := w.toNat_lt
  rw [wordBytes, littleEndian_bytesOf, Nat.mod_eq_of_lt h, UInt64.ofNat_toNat]

/-!
## Headers
-/

structure Frame where
  ident : Vector UInt8 19
  segments : Vector UInt8 8
  flags : Vector UInt8 10
  names : Vector UInt8 2

structure SectionFrame where
  before : Vector UInt8 16
  after : Vector UInt8 24

def Frame.zero : Frame :=
  ⟨Vector.replicate 19 0, Vector.replicate 8 0, Vector.replicate 10 0,
    Vector.replicate 2 0⟩

def SectionFrame.zero : SectionFrame :=
  ⟨Vector.replicate 16 0, Vector.replicate 24 0⟩

def encodeHeader (frame : Frame) (entry tableOffset : Word) (size count : UInt16) :
    List UInt8 :=
  magic ++ [2] ++ frame.ident.toList ++ wordBytes entry ++ frame.segments.toList ++
    wordBytes tableOffset ++ frame.flags.toList ++ bytesOf 2 size.toNat ++
    bytesOf 2 count.toNat ++ frame.names.toList

def encodeSection (frame : SectionFrame) (s : Section) : List UInt8 :=
  frame.before.toList ++ wordBytes s.addr ++ wordBytes s.offset ++ wordBytes s.size ++
    frame.after.toList

@[simp] theorem length_encodeHeader (frame : Frame) (entry tableOffset : Word)
    (size count : UInt16) :
    (encodeHeader frame entry tableOffset size count).length = headerSize := by
  simp [encodeHeader, magic, wordBytes, headerSize]

@[simp] theorem length_encodeSection (frame : SectionFrame) (s : Section) :
    (encodeSection frame s).length = sectionHeaderSize := by
  simp [encodeSection, wordBytes, sectionHeaderSize]

/-!
## Images
-/

def encode (frame : Frame) (entry : Address) (gap : List UInt8)
    (sections : List (SectionFrame × Section)) (rest : List UInt8) : List UInt8 :=
  encodeHeader frame entry (UInt64.ofNat (headerSize + gap.length))
      (UInt16.ofNat sectionHeaderSize) (UInt16.ofNat sections.length) ++
    gap ++ (sections.flatMap fun (f, s) => encodeSection f s) ++ rest

end Image
end EntryStop
