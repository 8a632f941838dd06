/-!
# UTF-8

Bytes of a text.  A strict reader refuses bytes that are no text; a lenient one
puts the replacement character U+FFFD where each maximal part of a broken
sequence stood, as the Unicode Standard recommends.
-/

namespace EntryStop
namespace Utf8

def encode (text : List Char) : List UInt8 :=
  text.flatMap String.utf8EncodeChar

def decode? (bytes : List UInt8) : Option (List Char) :=
  bytes.toByteArray.utf8Decode?.map Array.toList

theorem decode?_encode (text : List Char) : decode? (encode text) = some text := by
  have h : (encode text).toByteArray = text.utf8Encode := rfl
  rw [decode?, h, List.utf8Decode?_utf8Encode]
  simp

theorem eq_encode_of_decode? {bytes : List UInt8} {text : List Char}
    (h : decode? bytes = some text) : bytes = encode text := by
  rcases Option.map_eq_some_iff.mp h with ⟨chars, hchars, rfl⟩
  have hsome : bytes.toByteArray.utf8Decode?.isSome = true := by rw [hchars, Option.isSome_some]
  have hback := ByteArray.utf8Encode_get_utf8Decode? (h := hsome)
  simp only [hchars, Option.get_some] at hback
  have hbytes : (encode chars.toList).toByteArray = bytes.toByteArray := hback
  exact (List.toByteArray_inj.mp hbytes).symm

theorem encode_append (s t : List Char) :
    encode (s ++ t) = encode s ++ encode t := by
  simp [encode]

theorem decode?_utf8EncodeChar_append (c : Char) (bytes : List UInt8) :
    decode? (String.utf8EncodeChar c ++ bytes) = (decode? bytes).map (c :: ·) := by
  have hbytes : (String.utf8EncodeChar c ++ bytes).toByteArray =
      [c].utf8Encode ++ bytes.toByteArray := by
    rw [List.utf8Encode_singleton, List.toByteArray_append]
  rw [decode?, hbytes, ByteArray.utf8Decode?_utf8Encode_singleton_append, decode?]
  cases bytes.toByteArray.utf8Decode? with
  | none => rfl
  | some text => simp

theorem decode?_encode_append (text : List Char) (bytes : List UInt8) :
    decode? (encode text ++ bytes) = (decode? bytes).map (text ++ ·) := by
  induction text with
  | nil => simp [encode]
  | cons c text ih =>
      have hcons : encode (c :: text) = String.utf8EncodeChar c ++ encode text := rfl
      rw [hcons, List.append_assoc, decode?_utf8EncodeChar_append, ih, Option.map_map]
      rfl

/-!
## The lenient reader
-/

/-- A sequence that is not complete yet: the bits read so far and, for each byte
that is to come, the least and the greatest value that it may have. -/
structure Pending where
  bits : Nat
  awaited : List (Nat × Nat)

def replacement : Char := Char.ofNat 0xFFFD

def lead? (b : Nat) : Option Pending :=
  if b < 0x80 then some ⟨b, []⟩
  else if b < 0xC2 then none
  else if b < 0xE0 then some ⟨b - 0xC0, [(0x80, 0xBF)]⟩
  else if b = 0xE0 then some ⟨0, [(0xA0, 0xBF), (0x80, 0xBF)]⟩
  else if b = 0xED then some ⟨0xD, [(0x80, 0x9F), (0x80, 0xBF)]⟩
  else if b < 0xF0 then some ⟨b - 0xE0, [(0x80, 0xBF), (0x80, 0xBF)]⟩
  else if b = 0xF0 then some ⟨0, [(0x90, 0xBF), (0x80, 0xBF), (0x80, 0xBF)]⟩
  else if b < 0xF4 then some ⟨b - 0xF0, [(0x80, 0xBF), (0x80, 0xBF), (0x80, 0xBF)]⟩
  else if b = 0xF4 then some ⟨4, [(0x80, 0x8F), (0x80, 0xBF), (0x80, 0xBF)]⟩
  else none

def start (b : Nat) : List Char × Option Pending :=
  match lead? b with
  | none => ([replacement], none)
  | some ⟨bits, []⟩ => ([Char.ofNat bits], none)
  | some pending => ([], some pending)

def advance (p : Pending) (b : Nat) : List Char × Option Pending :=
  match p.awaited with
  | [] => start b
  | (low, high) :: awaited =>
      if low ≤ b ∧ b ≤ high then
        let bits := p.bits * 64 + (b - 0x80)
        if awaited.isEmpty then ([Char.ofNat bits], none) else ([], some ⟨bits, awaited⟩)
      else
        let (cs, next) := start b
        (replacement :: cs, next)

def lossyFrom : Option Pending -> List UInt8 -> List Char
  | none, [] => []
  | some _, [] => [replacement]
  | p, b :: bytes =>
      let (cs, next) := match p with
        | none => start b.toNat
        | some p => advance p b.toNat
      cs ++ lossyFrom next bytes

/-- The text of any bytes, with replacements where they spell none. -/
def lossy (bytes : List UInt8) : List Char :=
  lossyFrom none bytes

end Utf8
end EntryStop
