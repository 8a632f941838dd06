import EntryStop.Proofs.Machine.Results
import EntryStop.Proofs.Text.Fields
import EntryStop.Proofs.Text.Leading

/-!
# Signed numerals

A signed numeral is a row of decimal digits with at most one sign in front of it.  The text of
a number is read exactly if it is such a numeral and the number fits in a machine word.
-/

namespace EntryStop
namespace Numeral

/-- The text is a numeral of the number.  Zeros may stand in front of the digits. -/
inductive Denotes : List Char -> Int -> Prop where
  | plain {digits : List Char} : digits ≠ [] ->
      (forall c, c ∈ digits -> c.isDigit = true) ->
      Denotes digits (Nat.ofDigitChars 10 digits 0)
  | plus {digits : List Char} : digits ≠ [] ->
      (forall c, c ∈ digits -> c.isDigit = true) ->
      Denotes ('+' :: digits) (Nat.ofDigitChars 10 digits 0)
  | minus {digits : List Char} : digits ≠ [] ->
      (forall c, c ∈ digits -> c.isDigit = true) ->
      Denotes ('-' :: digits) (-(Nat.ofDigitChars 10 digits 0))

section

variable {text digits : List Char} {limit : Nat} {n : Int} {c : Char}

/-!
## Characters of a numeral
-/

theorem isBlank_eq_false_of_isDigit (hc : c.isDigit = true) : Text.isBlank c = false := by
  have hrange : 0x30 ≤ c.toNat ∧ c.toNat ≤ 0x39 := Char.isDigit_iff_toNat.mp hc
  simp only [Text.isBlank, Bool.or_eq_false_iff, Bool.and_eq_false_iff, beq_eq_false_iff_ne,
    decide_eq_false_iff_not]
  omega

theorem Denotes.isBlank_eq_false (h : Denotes text n) (hc : c ∈ text) :
    Text.isBlank c = false := by
  cases h with
  | plain _ hdigits => exact isBlank_eq_false_of_isDigit (hdigits c hc)
  | plus _ hdigits =>
      rcases List.mem_cons.mp hc with rfl | hc
      · rfl
      · exact isBlank_eq_false_of_isDigit (hdigits c hc)
  | minus _ hdigits =>
      rcases List.mem_cons.mp hc with rfl | hc
      · rfl
      · exact isBlank_eq_false_of_isDigit (hdigits c hc)

theorem Denotes.ne_nil (h : Denotes text n) : text ≠ [] := by
  cases h with
  | plain hne _ => exact hne
  | plus _ _ => exact List.cons_ne_nil _ _
  | minus _ _ => exact List.cons_ne_nil _ _

theorem Denotes.trim_eq (h : Denotes text n) : Text.trim text = text := by
  apply Text.trim_of_bare
  constructor
  · intro c hc
    exact h.isBlank_eq_false (List.mem_of_head? hc)
  · intro c hc
    exact h.isBlank_eq_false (List.mem_of_getLast? hc)

/-!
## Reading
-/

theorem integer_plus (hne : digits ≠ []) (base limit : Nat) :
    integer base limit ('+' :: digits) =
      (magnitude base limit .tooLarge 0 digits).map Int.ofNat := by
  cases digits with
  | nil => exact absurd rfl hne
  | cons d digits => rfl

theorem integer_minus (hne : digits ≠ []) (base limit : Nat) :
    integer base limit ('-' :: digits) =
      (magnitude base (limit + 1) .tooSmall 0 digits).map fun n => -Int.ofNat n := by
  cases digits with
  | nil => exact absurd rfl hne
  | cons d digits => rfl

theorem integer_of_no_sign (hplus : c ≠ '+') (hminus : c ≠ '-') (base limit : Nat) :
    integer base limit (c :: digits) =
      (magnitude base limit .tooLarge 0 (c :: digits)).map Int.ofNat := by
  -- The reader has a case for no character, for each lone sign and for each sign with digits
  -- behind it; the last case is left.
  unfold integer
  split
  · next h => cases h
  · next h => exact absurd (List.cons.inj h).left hplus
  · next h => exact absurd (List.cons.inj h).left hminus
  · next h => exact absurd (List.cons.inj h).left hplus
  · next h => exact absurd (List.cons.inj h).left hminus
  · rfl

theorem magnitude_map_eq_ok_iff {overflow : NumeralError} {g : Nat -> Int} :
    (magnitude 10 limit overflow 0 digits).map g = .ok n ↔
      (forall c, c ∈ digits -> c.isDigit = true) ∧
        Nat.ofDigitChars 10 digits 0 ≤ limit ∧ g (Nat.ofDigitChars 10 digits 0) = n := by
  rw [map_eq_ok_iff]
  constructor
  · intro h
    rcases h with ⟨value, hread, hvalue⟩
    rcases (magnitude_ten_eq_ok_iff overflow (Nat.zero_le limit)).mp hread with
      ⟨hdigits, rfl, hlimit⟩
    exact ⟨hdigits, hlimit, hvalue⟩
  · intro h
    rcases h with ⟨hdigits, hlimit, hvalue⟩
    exact ⟨_, (magnitude_ten_eq_ok_iff overflow (Nat.zero_le limit)).mpr
      ⟨hdigits, rfl, hlimit⟩, hvalue⟩

theorem denotes_of_integer (h : integer 10 limit text = .ok n) :
    Denotes text n ∧ -(limit + 1 : Int) ≤ n ∧ n ≤ limit := by
  unfold integer at h
  split at h
  · cases h
  · cases h
  · cases h
  · next hne =>
      rcases magnitude_map_eq_ok_iff.mp h with ⟨hdigits, hlimit, rfl⟩
      exact ⟨.plus hne hdigits, by simp only [Int.ofNat_eq_natCast]; omega,
        Int.ofNat_le.mpr hlimit⟩
  · next hne =>
      rcases magnitude_map_eq_ok_iff.mp h with ⟨hdigits, hlimit, rfl⟩
      exact ⟨.minus hne hdigits, by simp only [Int.ofNat_eq_natCast]; omega,
        by simp only [Int.ofNat_eq_natCast]; omega⟩
  · next hne _ _ _ _ =>
      rcases magnitude_map_eq_ok_iff.mp h with ⟨hdigits, hlimit, rfl⟩
      exact ⟨.plain hne hdigits, by simp only [Int.ofNat_eq_natCast]; omega,
        Int.ofNat_le.mpr hlimit⟩

theorem integer_of_denotes (h : Denotes text n) (hlow : -(limit + 1 : Int) ≤ n)
    (hhigh : n ≤ limit) : integer 10 limit text = .ok n := by
  cases h with
  | plain hne hdigits =>
      cases text with
      | nil => exact absurd rfl hne
      | cons c digits =>
          have hsign {d : Char} (hd : d.isDigit = false) : c ≠ d := by
            intro heq
            rw [← heq, hdigits c List.mem_cons_self] at hd
            cases hd
          rw [integer_of_no_sign (hsign rfl) (hsign rfl), magnitude_map_eq_ok_iff]
          exact ⟨hdigits, Int.ofNat_le.mp hhigh, rfl⟩
  | plus hne hdigits =>
      rw [integer_plus hne, magnitude_map_eq_ok_iff]
      exact ⟨hdigits, Int.ofNat_le.mp hhigh, rfl⟩
  | minus hne hdigits =>
      rw [integer_minus hne, magnitude_map_eq_ok_iff]
      exact ⟨hdigits, by omega, rfl⟩

theorem signed32_eq_ok_iff {w : Int32} :
    signed32 text = .ok w ↔ Denotes text w.toInt := by
  rw [signed32, map_eq_ok_iff]
  constructor
  · intro h
    rcases h with ⟨value, hread, rfl⟩
    rcases denotes_of_integer hread with ⟨hdenotes, hlow, hhigh⟩
    have hvalue : (Int32.ofInt value).toInt = value := by
      apply Int32.toInt_ofInt_of_le
      · omega
      · omega
    rw [hvalue]
    exact hdenotes
  · intro h
    have hlow := Int32.le_toInt w
    have hhigh := Int32.toInt_lt w
    exact ⟨w.toInt, integer_of_denotes h (by omega) (by omega), Int32.ofInt_toInt w⟩

end

/-!
## Printed numbers
-/

theorem denotes_toString (n : Int) : Denotes (toString n).toList n := by
  have hvalue (m : Nat) : Nat.ofDigitChars 10 (Nat.toDigits 10 m) 0 = m :=
    Nat.ofDigitChars_toDigits (by decide) (Nat.le_refl 10)
  have hdigits (m : Nat) : forall c, c ∈ Nat.toDigits 10 m -> c.isDigit = true :=
    fun c hc => Nat.isDigit_of_mem_toDigits (by decide) (Nat.le_refl 10) hc
  cases n with
  | ofNat m =>
      have htext : (toString (Int.ofNat m)).toList = Nat.toDigits 10 m := String.toList_ofList
      have hplain := Denotes.plain Nat.toDigits_ne_nil (hdigits m)
      rw [hvalue] at hplain
      rw [htext]
      exact hplain
  | negSucc m =>
      have htext : (toString (Int.negSucc m)).toList = '-' :: Nat.toDigits 10 (m + 1) := by
        show ("-" ++ String.ofList (Nat.toDigits 10 (m + 1))).toList = _
        rw [String.toList_append, String.toList_ofList, String.toList_ofList,
          List.singleton_append]
      have hminus := Denotes.minus Nat.toDigits_ne_nil (hdigits (m + 1))
      rw [hvalue] at hminus
      rw [htext]
      exact hminus

end Numeral
end EntryStop
