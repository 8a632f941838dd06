import EntryStop.Text.Numeral

/-!
# Numerals that were written

A number that was written in a base is read back.  The digits are those of the library;
letters may stand in either case, and zeros may stand in front.
-/

namespace EntryStop
namespace Numeral

/-!
## Digits in their order
-/

theorem magnitude_append (base limit : Nat) (overflow : NumeralError) (acc : Nat)
    (first rest : List Char) :
    magnitude base limit overflow acc (first ++ rest) =
      (magnitude base limit overflow acc first).bind fun value =>
        magnitude base limit overflow value rest := by
  induction first generalizing acc with
  | nil => rfl
  | cons c first ih =>
      simp only [List.cons_append, magnitude]
      cases digit? base c with
      | none => rfl
      | some d =>
          by_cases hfits : acc * base + d ≤ limit
          · simp only [hfits, if_true]
            exact ih _
          · simp only [hfits, if_false]
            rfl

theorem magnitude_singleton {base limit acc d : Nat} {c : Char} (overflow : NumeralError)
    (hdigit : digit? base c = some d) (hfits : acc * base + d ≤ limit) :
    magnitude base limit overflow acc [c] = .ok (acc * base + d) := by
  simp [magnitude, hdigit, hfits]

theorem magnitude_zeros {base : Nat} (limit : Nat) (overflow : NumeralError)
    (hzero : digit? base '0' = some 0) (count : Nat) (digits : List Char) :
    magnitude base limit overflow 0 (List.replicate count '0' ++ digits) =
      magnitude base limit overflow 0 digits := by
  induction count with
  | zero => rfl
  | succ count ih =>
      simp [List.replicate_succ, magnitude, hzero, ih]

theorem magnitude_toDigits {base limit n : Nat} {write : Char -> Char}
    (overflow : NumeralError) (hbase : 1 < base)
    (hwrite : forall d, d < base -> digit? base (write (Nat.digitChar d)) = some d)
    (hn : n ≤ limit) :
    magnitude base limit overflow 0 ((Nat.toDigits base n).map write) = .ok n := by
  -- All digits but the last are those of the number divided by the base.
  induction n using Nat.strongRecOn with
  | ind n ih =>
      by_cases hlt : n < base
      · have hvalue : 0 * base + n = n := by omega
        rw [Nat.toDigits_of_lt_base hlt, List.map_singleton,
          magnitude_singleton overflow (hwrite n hlt) (hvalue.symm ▸ hn), hvalue]
      · have hle : base ≤ n := Nat.le_of_not_lt hlt
        have hless : n / base < n := Nat.div_lt_self (by omega) hbase
        have hvalue : n / base * base + n % base = n := Nat.div_add_mod' n base
        have hlast : n % base < base := Nat.mod_lt n (by omega)
        rw [Nat.toDigits_of_base_le hbase hle, List.map_append, List.map_singleton,
          magnitude_append, ih (n / base) hless (by omega)]
        show magnitude base limit overflow (n / base) _ = _
        rw [magnitude_singleton overflow (hwrite _ hlast) (hvalue.symm ▸ hn), hvalue]

/-!
## Whole numerals
-/

theorem natural_of_ne_plus {c : Char} (hplus : c ≠ '+') (base limit : Nat)
    (digits : List Char) :
    natural base limit (c :: digits) =
      magnitude base limit .tooLarge 0 (c :: digits) := by
  unfold natural
  split
  · next h => cases h
  · next h => exact absurd (List.cons.inj h).left hplus
  · next h => exact absurd (List.cons.inj h).left hplus
  · rfl

theorem natural_of_digits {base : Nat} (limit : Nat) {digits : List Char}
    (hne : digits ≠ []) (hplus : '+' ∉ digits) :
    natural base limit digits = magnitude base limit .tooLarge 0 digits := by
  cases digits with
  | nil => exact absurd rfl hne
  | cons c digits =>
      apply natural_of_ne_plus
      intro heq
      exact hplus (heq ▸ List.mem_cons_self)

/-!
## Numbers that were written
-/

theorem exists_digitChar_of_mem_toDigits {base n : Nat} {c : Char} (hbase : 1 < base)
    (hc : c ∈ Nat.toDigits base n) : exists d, d < base ∧ c = Nat.digitChar d := by
  induction n using Nat.strongRecOn with
  | ind n ih =>
      by_cases hlt : n < base
      · rw [Nat.toDigits_of_lt_base hlt, List.mem_singleton] at hc
        exact ⟨n, hlt, hc⟩
      · have hless : n / base < n := Nat.div_lt_self (by omega) hbase
        rw [Nat.toDigits_of_base_le hbase (Nat.le_of_not_lt hlt), List.mem_append,
          List.mem_singleton] at hc
        rcases hc with hfront | hlast
        · exact ih (n / base) hless hfront
        · exact ⟨n % base, Nat.mod_lt n (by omega), hlast⟩

def written (base zeros : Nat) (write : Char -> Char) (n : Nat) : List Char :=
  List.replicate zeros '0' ++ (Nat.toDigits base n).map write

section

variable {base : Nat} {write : Char -> Char} (hbase : 1 < base)
  (hzero : digit? base '0' = some 0)
  (hwrite : forall d, d < base -> digit? base (write (Nat.digitChar d)) = some d)

theorem written_ne_nil (base zeros : Nat) (write : Char -> Char) (n : Nat) :
    written base zeros write n ≠ [] := by
  intro hnil
  have hdigits := (List.append_eq_nil_iff.mp hnil).right
  exact Nat.toDigits_ne_nil (List.map_eq_nil_iff.mp hdigits)

include hbase hzero hwrite

theorem not_mem_written {c : Char} (hc : digit? base c = none) (zeros n : Nat) :
    c ∉ written base zeros write n := by
  intro hmem
  rcases List.mem_append.mp hmem with hfront | hdigit
  · rw [List.eq_of_mem_replicate hfront, hzero] at hc
    cases hc
  · rcases List.mem_map.mp hdigit with ⟨digit, htoDigits, rfl⟩
    rcases exists_digitChar_of_mem_toDigits hbase htoDigits with ⟨d, hd, rfl⟩
    rw [hwrite d hd] at hc
    cases hc

theorem natural_written (hplus : digit? base '+' = none) (zeros : Nat) {limit n : Nat}
    (hn : n ≤ limit) : natural base limit (written base zeros write n) = .ok n := by
  rw [natural_of_digits _ (written_ne_nil base zeros write n)
      (not_mem_written hbase hzero hwrite hplus zeros n),
    written, magnitude_zeros _ _ hzero]
  exact magnitude_toDigits _ hbase hwrite hn

end

/-!
## Hexadecimal numerals
-/

structure HexStyle where
  upper : Bool
  zeros : Nat
  deriving DecidableEq, Repr

def HexStyle.write (style : HexStyle) (c : Char) : Char :=
  if style.upper then c.toUpper else c

def hexText (style : HexStyle) (n : Nat) : List Char :=
  List.replicate style.zeros '0' ++ (Nat.toDigits 16 n).map style.write

theorem digit?_write_digitChar (style : HexStyle) {d : Nat} (hd : d < 16) :
    digit? 16 (style.write (Nat.digitChar d)) = some d := by
  rcases style with ⟨upper, zeros⟩
  cases upper with
  | false => exact (by decide : forall d, d < 16 -> digit? 16 (Nat.digitChar d) = some d) d hd
  | true =>
      exact (by decide :
        forall d, d < 16 -> digit? 16 (Nat.digitChar d).toUpper = some d) d hd

theorem not_mem_hexText {c : Char} (hc : digit? 16 c = none) (style : HexStyle) (n : Nat) :
    c ∉ hexText style n :=
  not_mem_written (by decide) (by decide) (fun _ hd => digit?_write_digitChar style hd) hc _ n

theorem natural_hexText (style : HexStyle) {limit n : Nat} (hn : n ≤ limit) :
    natural 16 limit (hexText style n) = .ok n :=
  natural_written (by decide) (by decide) (fun _ hd => digit?_write_digitChar style hd)
    (by decide) _ hn

theorem word64_hexText (style : HexStyle) (w : UInt64) :
    word64 16 (hexText style w.toNat) = .ok w := by
  have hw : w.toNat ≤ UInt64.size - 1 := Nat.le_pred_of_lt w.toNat_lt
  rw [word64, natural_hexText style hw]
  show Except.ok (UInt64.ofNat w.toNat) = _
  rw [UInt64.ofNat_toNat]

theorem word32_hexText (style : HexStyle) (w : UInt16) :
    word32 16 (hexText style w.toNat) = .ok w.toUInt32 := by
  have hw : w.toNat ≤ UInt32.size - 1 :=
    Nat.le_trans (Nat.le_of_lt w.toNat_lt) (by decide)
  rw [word32, natural_hexText style hw]
  show Except.ok (UInt32.ofNat w.toUInt32.toNat) = _
  rw [UInt32.ofNat_toNat]

/-!
## Decimal numerals
-/

def decimalText (zeros n : Nat) : List Char :=
  written 10 zeros id n

theorem natural_decimalText (zeros : Nat) {limit n : Nat} (hn : n ≤ limit) :
    natural 10 limit (decimalText zeros n) = .ok n := by
  have hdigit : forall d, d < 10 -> digit? 10 (Nat.digitChar d) = some d := by decide
  exact natural_written (by decide) (by decide) hdigit (by decide) zeros hn

theorem toList_toString (n : Nat) : (toString n).toList = decimalText 0 n := by
  rw [decimalText, written, List.replicate_zero, List.nil_append, List.map_id]
  exact String.toList_ofList

theorem word64_decimalText (zeros : Nat) (w : UInt64) :
    word64 10 (decimalText zeros w.toNat) = .ok w := by
  have hw : w.toNat ≤ UInt64.size - 1 := Nat.le_pred_of_lt w.toNat_lt
  rw [word64, natural_decimalText zeros hw]
  show Except.ok (UInt64.ofNat w.toNat) = _
  rw [UInt64.ofNat_toNat]

theorem word32_toString (w : UInt32) : word32 10 (toString w.toNat).toList = .ok w := by
  have hw : w.toNat ≤ UInt32.size - 1 := Nat.le_pred_of_lt w.toNat_lt
  rw [word32, toList_toString, natural_decimalText 0 hw]
  show Except.ok (UInt32.ofNat w.toNat) = _
  rw [UInt32.ofNat_toNat]

theorem word16_toString (w : UInt16) : word16 10 (toString w.toNat).toList = .ok w := by
  have hw : w.toNat ≤ UInt16.size - 1 := Nat.le_pred_of_lt w.toNat_lt
  rw [word16, toList_toString, natural_decimalText 0 hw]
  show Except.ok (UInt16.ofNat w.toNat) = _
  rw [UInt16.ofNat_toNat]

end Numeral
end EntryStop
