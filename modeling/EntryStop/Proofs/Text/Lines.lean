import EntryStop.Text.Lines
import EntryStop.Text.Utf8

/-!
# Lines that were written

A text that was written line by line is cut into those lines again.  The lines of the bytes
of a text are the bytes of its lines: a newline or a carriage return is one byte, and that
byte occurs in no other character.
-/

namespace EntryStop

/-!
## Bytes of single characters
-/

namespace Utf8

theorem utf8EncodeChar_cases (c : Char) :
    (c.toNat < 128 ∧ String.utf8EncodeChar c = [UInt8.ofNat c.toNat]) ∨
      forall b, b ∈ String.utf8EncodeChar c -> 128 ≤ b.toNat := by
  by_cases hlow : c.val.toNat ≤ 0x7F
  · have hlt : c.toNat < 128 := Nat.lt_succ_of_le hlow
    exact Or.inl ⟨hlt, if_pos hlow⟩
  · apply Or.inr
    intro b hb
    unfold String.utf8EncodeChar at hb
    simp only [if_neg hlow] at hb
    -- One case for each length of the sequence: two, three and four bytes.
    split at hb
    · simp only [List.mem_cons, List.not_mem_nil, or_false] at hb
      rcases hb with rfl | rfl <;> rw [UInt8.toNat_ofNat'] <;> omega
    · split at hb
      · simp only [List.mem_cons, List.not_mem_nil, or_false] at hb
        rcases hb with rfl | rfl | rfl <;> rw [UInt8.toNat_ofNat'] <;> omega
      · simp only [List.mem_cons, List.not_mem_nil, or_false] at hb
        rcases hb with rfl | rfl | rfl | rfl <;> rw [UInt8.toNat_ofNat'] <;> omega

theorem utf8EncodeChar_of_lt {c : Char} (hc : c.toNat < 128) :
    String.utf8EncodeChar c = [UInt8.ofNat c.toNat] := by
  have hlow : c.val.toNat ≤ 0x7F := Nat.le_of_lt_succ hc
  exact if_pos hlow

theorem mem_utf8EncodeChar_iff (mark : Char) (hmark : mark.toNat < 128) (c : Char) :
    UInt8.ofNat mark.toNat ∈ String.utf8EncodeChar c ↔ c = mark := by
  have hvalue : (UInt8.ofNat mark.toNat).toNat = mark.toNat := by
    rw [UInt8.toNat_ofNat']
    omega
  constructor
  · intro hmem
    rcases utf8EncodeChar_cases c with ⟨hlow, hsingle⟩ | hhigh
    · rw [hsingle, List.mem_singleton] at hmem
      have heq := congrArg UInt8.toNat hmem
      rw [hvalue, UInt8.toNat_ofNat', Nat.mod_eq_of_lt (by omega)] at heq
      exact (Char.toNat_inj.mp heq).symm
    · have hle := hhigh _ hmem
      omega
  · intro heq
    rw [heq, utf8EncodeChar_of_lt hmark]
    exact List.mem_singleton_self _

theorem encode_cons (c : Char) (text : List Char) :
    encode (c :: text) = String.utf8EncodeChar c ++ encode text := rfl

theorem encode_singleton (c : Char) : encode [c] = String.utf8EncodeChar c :=
  List.append_nil _

end Utf8

/-!
## Pieces
-/

namespace Lines

section

variable {α : Type} [DecidableEq α]

theorem pieces_append_of_not_mem {newline : α} {front : List α} (hne : front ≠ [])
    (h : newline ∉ front) (text : List α) :
    pieces newline (front ++ text) =
      match pieces newline text with
      | [] => [(front, false)]
      | (line, ended) :: rest => (front ++ line, ended) :: rest := by
  induction front with
  | nil => exact absurd rfl hne
  | cons c front ih =>
      simp only [List.mem_cons, not_or] at h
      cases front with
      | nil =>
          rw [List.singleton_append, pieces, if_neg (Ne.symm h.left)]
          cases pieces newline text with
          | nil => rfl
          | cons piece rest => rfl
      | cons d front =>
          rw [List.cons_append, pieces, if_neg (Ne.symm h.left),
            ih (List.cons_ne_nil d front) h.right]
          cases pieces newline text with
          | nil => rfl
          | cons piece rest => rfl

theorem dropReturn_concat_self (carriage : α) (line : List α) :
    dropReturn carriage (line ++ [carriage]) = line := by
  simp [dropReturn]

theorem dropReturn_of_getLast?_ne {carriage : α} {line : List α}
    (h : line.getLast? ≠ some carriage) : dropReturn carriage line = line :=
  if_neg h

theorem mem_of_mem_dropReturn {carriage c : α} {line : List α}
    (h : c ∈ dropReturn carriage line) : c ∈ line := by
  unfold dropReturn at h
  split at h
  · exact List.mem_of_mem_take (List.dropLast_eq_take ▸ h)
  · exact h

theorem dropReturn_append_cons {carriage c : α} (hc : c ≠ carriage) (front back : List α) :
    dropReturn carriage (front ++ c :: back) = front ++ c :: dropReturn carriage back := by
  rcases List.eq_nil_or_concat back with rfl | ⟨init, d, rfl⟩
  · apply dropReturn_of_getLast?_ne
    intro hlast
    rw [List.getLast?_concat] at hlast
    exact hc (Option.some.inj hlast)
  · rw [List.concat_eq_append]
    have hassoc : front ++ c :: (init ++ [d]) = (front ++ c :: init) ++ [d] := by
      rw [List.append_assoc, List.cons_append]
    by_cases hd : d = carriage
    · subst hd
      rw [hassoc, dropReturn_concat_self, dropReturn_concat_self]
    · have hlast (line : List α) : (line ++ [d]).getLast? ≠ some carriage := by
        intro hlast
        rw [List.getLast?_concat] at hlast
        exact hd (Option.some.inj hlast)
      rw [dropReturn_of_getLast?_ne (hlast init), hassoc,
        dropReturn_of_getLast?_ne (hlast _), List.append_assoc, List.cons_append]

theorem split_flatMap {β : Type} {newline : α} (carriage : α) {write : β -> List α}
    {xs : List β} (h : forall x, x ∈ xs -> newline ∉ write x) :
    split newline carriage (xs.flatMap fun x => write x ++ [newline]) =
      xs.map fun x => dropReturn carriage (write x) := by
  induction xs with
  | nil => rfl
  | cons x xs ih =>
      have htail := ih fun y hy => h y (List.mem_cons_of_mem x hy)
      rw [split] at htail
      rw [List.flatMap_cons, List.append_assoc, List.singleton_append, split,
        pieces_line_append (h x List.mem_cons_self), List.map_cons, htail, List.map_cons]
      rfl

end

theorem pieces_encode (text : List Char) :
    pieces 10 (Utf8.encode text) =
      (pieces '\n' text).map fun (line, ended) => (Utf8.encode line, ended) := by
  induction text with
  | nil => rfl
  | cons c text ih =>
      by_cases hc : c = '\n'
      · subst hc
        have hbyte : String.utf8EncodeChar '\n' = [10] := rfl
        rw [Utf8.encode_cons, hbyte, List.singleton_append, pieces_newline_cons, ih,
          pieces_newline_cons, List.map_cons]
        rfl
      · have hnewline : 10 ∉ String.utf8EncodeChar c := by
          intro hmem
          exact hc ((Utf8.mem_utf8EncodeChar_iff '\n' (by decide) c).mp hmem)
        rw [Utf8.encode_cons,
          pieces_append_of_not_mem String.utf8EncodeChar_ne_nil hnewline, ih, pieces,
          if_neg hc]
        cases pieces '\n' text with
        | nil => simp [Utf8.encode_singleton]
        | cons piece rest => rfl

theorem dropReturn_encode (line : List Char) :
    dropReturn 13 (Utf8.encode line) = Utf8.encode (dropReturn '\r' line) := by
  rcases List.eq_nil_or_concat line with rfl | ⟨init, c, rfl⟩
  · rfl
  · rw [List.concat_eq_append, Utf8.encode_append, Utf8.encode_singleton]
    by_cases hc : c = '\r'
    · subst hc
      have hbyte : String.utf8EncodeChar '\r' = [13] := rfl
      rw [hbyte, dropReturn_concat_self, dropReturn_concat_self]
    · have hchars : (init ++ [c]).getLast? ≠ some '\r' := by
        intro hlast
        rw [List.getLast?_concat] at hlast
        exact hc (Option.some.inj hlast)
      have hbytes :
          (Utf8.encode init ++ String.utf8EncodeChar c).getLast? ≠ some 13 := by
        intro hlast
        rw [List.getLast?_append] at hlast
        cases hb : (String.utf8EncodeChar c).getLast? with
        | none =>
            exact absurd (List.getLast?_eq_none_iff.mp hb) String.utf8EncodeChar_ne_nil
        | some b =>
            rw [hb] at hlast
            cases hlast
            have hmem := List.mem_of_getLast? hb
            exact hc ((Utf8.mem_utf8EncodeChar_iff '\r' (by decide) c).mp hmem)
      rw [dropReturn_of_getLast?_ne hbytes, dropReturn_of_getLast?_ne hchars,
        Utf8.encode_append, Utf8.encode_singleton]

theorem ofBytes_encode (text : List Char) :
    ofBytes (Utf8.encode text) = (Text.lines text).map Utf8.encode := by
  rw [ofBytes, Text.lines, split, split, pieces_encode, List.map_map, List.map_map]
  apply List.map_congr_left
  rintro ⟨line, ended⟩ _
  cases ended with
  | false => rfl
  | true => exact dropReturn_encode line

end Lines
end EntryStop
