import EntryStop.Proofs.Text.Numeral

/-!
# Numbers at the start of a text

A text starts with a number if decimal digits stand at its start, and all of them up to the
first other character make the number.  It is read exactly if it fits in a machine word.
-/

namespace EntryStop
namespace Numeral

/-!
## Decimal digits
-/

theorem digit?_ten_of_isDigit {c : Char} (hc : c.isDigit = true) :
    digit? 10 c = some (c.toNat - '0'.toNat) := by
  have hrange : 0x30 ≤ c.toNat ∧ c.toNat ≤ 0x39 := Char.isDigit_iff_toNat.mp hc
  have hvalue : c.toNat - 0x30 < 10 := by omega
  simp only [digit?, if_pos hrange, Option.filter_some, hvalue, decide_true, if_true]
  rfl

theorem digit?_ten_of_not_isDigit {c : Char} (hc : c.isDigit = false) :
    digit? 10 c = none := by
  have hrange : ¬ (0x30 ≤ c.toNat ∧ c.toNat ≤ 0x39) := by
    intro hrange
    rw [Char.isDigit_iff_toNat.mpr hrange] at hc
    cases hc
  -- Letters are digits only of greater bases.
  simp only [digit?, if_neg hrange]
  split
  · simp
  · split
    · simp
    · rfl

theorem isSome_digit?_ten (c : Char) : (digit? 10 c).isSome = c.isDigit := by
  cases hc : c.isDigit with
  | true => rw [digit?_ten_of_isDigit hc, Option.isSome_some]
  | false => rw [digit?_ten_of_not_isDigit hc, Option.isSome_none]

theorem leadingDigits_eq (text : List Char) :
    leadingDigits text = text.takeWhile Char.isDigit := by
  rw [leadingDigits, funext isSome_digit?_ten]

theorem le_ofDigitChars (acc : Nat) (digits : List Char) :
    acc ≤ Nat.ofDigitChars 10 digits acc := by
  induction digits generalizing acc with
  | nil => exact Nat.le_refl acc
  | cons c digits ih =>
      rw [Nat.ofDigitChars_cons]
      have hstep := ih (10 * acc + (c.toNat - '0'.toNat))
      omega

theorem magnitude_ten_eq_ok_iff {limit acc n : Nat} {digits : List Char}
    (overflow : NumeralError) (hacc : acc ≤ limit) :
    magnitude 10 limit overflow acc digits = .ok n ↔
      (forall c, c ∈ digits -> c.isDigit = true) ∧
        Nat.ofDigitChars 10 digits acc = n ∧ n ≤ limit := by
  induction digits generalizing acc with
  | nil =>
      rw [magnitude_nil, Nat.ofDigitChars_nil]
      constructor
      · intro h
        cases h
        exact ⟨fun c hc => absurd hc List.not_mem_nil, rfl, hacc⟩
      · intro h
        rcases h with ⟨_, rfl, _⟩
        rfl
  | cons c digits ih =>
      rw [magnitude, Nat.ofDigitChars_cons, List.forall_mem_cons, Nat.mul_comm 10 acc]
      cases hc : c.isDigit with
      | false => simp [digit?_ten_of_not_isDigit hc]
      | true =>
          simp only [digit?_ten_of_isDigit hc, true_and]
          by_cases hfits : acc * 10 + (c.toNat - '0'.toNat) ≤ limit
          · rw [if_pos hfits]
            exact ih hfits
          · -- The digits that follow only make the number greater.
            have hgrows := le_ofDigitChars (acc * 10 + (c.toNat - '0'.toNat)) digits
            rw [if_neg hfits]
            constructor
            · intro h
              cases h
            · intro h
              rcases h with ⟨_, hvalue, hlimit⟩
              omega

/-!
## Texts that start with a number
-/

/-- Digits with the value `n` stand at the start of the text, and no further digit behind
them. -/
def StartsWith (text : List Char) (n : Nat) : Prop :=
  exists digits rest, text = digits ++ rest ∧ digits ≠ [] ∧
    (forall c, c ∈ digits -> c.isDigit = true) ∧
    (forall c, rest.head? = some c -> c.isDigit = false) ∧
    Nat.ofDigitChars 10 digits 0 = n

theorem isDigit_of_mem_takeWhile {text : List Char} {c : Char}
    (hc : c ∈ text.takeWhile Char.isDigit) : c.isDigit = true :=
  List.all_eq_true.mp List.all_takeWhile c hc

theorem takeWhile_isDigit_append {digits rest : List Char}
    (hdigits : forall c, c ∈ digits -> c.isDigit = true)
    (hrest : forall c, rest.head? = some c -> c.isDigit = false) :
    (digits ++ rest).takeWhile Char.isDigit = digits := by
  have hnone : rest.takeWhile Char.isDigit = [] := by
    cases rest with
    | nil => rfl
    | cons c rest =>
        apply List.takeWhile_cons_of_neg
        rw [hrest c rfl]
        exact Bool.false_ne_true
  rw [List.takeWhile_append_of_pos hdigits, hnone, List.append_nil]

theorem startsWith_iff {text : List Char} {n : Nat} :
    StartsWith text n ↔
      text.takeWhile Char.isDigit ≠ [] ∧
        Nat.ofDigitChars 10 (text.takeWhile Char.isDigit) 0 = n := by
  constructor
  · intro h
    rcases h with ⟨digits, rest, rfl, hne, hdigits, hrest, hvalue⟩
    rw [takeWhile_isDigit_append hdigits hrest]
    exact ⟨hne, hvalue⟩
  · intro h
    rcases h with ⟨hne, hvalue⟩
    refine ⟨_, text.dropWhile Char.isDigit, List.takeWhile_append_dropWhile.symm, hne,
      fun c hc => isDigit_of_mem_takeWhile hc, ?_, hvalue⟩
    intro c hc
    have hstop := List.head?_dropWhile_not Char.isDigit text
    rw [hc] at hstop
    exact hstop

instance (text : List Char) (n : Nat) : Decidable (StartsWith text n) :=
  decidable_of_iff _ startsWith_iff.symm

theorem StartsWith.unique {text : List Char} {m n : Nat} (hm : StartsWith text m)
    (hn : StartsWith text n) : m = n :=
  (startsWith_iff.mp hm).right.symm.trans (startsWith_iff.mp hn).right

theorem startsWith_append_iff {front back : List Char} {n : Nat}
    (hback : forall c, back.head? = some c -> c.isDigit = false) :
    StartsWith (front ++ back) n ↔ StartsWith front n := by
  have hsame : (front ++ back).takeWhile Char.isDigit = front.takeWhile Char.isDigit := by
    rw [List.takeWhile_append]
    split
    · next hall =>
        have hfront := (List.takeWhile_prefix Char.isDigit).eq_of_length hall
        have hdigits : forall c, c ∈ front -> c.isDigit = true :=
          fun c hc => isDigit_of_mem_takeWhile (hfront.symm ▸ hc)
        rw [← List.takeWhile_append_of_pos hdigits, takeWhile_isDigit_append hdigits hback,
          hfront]
    · rfl
  rw [startsWith_iff, startsWith_iff, hsame]

theorem word32_ten_eq_ok_iff {digits : List Char} {w : UInt32}
    (hdigits : forall c, c ∈ digits -> c.isDigit = true) :
    word32 10 digits = .ok w ↔
      digits ≠ [] ∧ Nat.ofDigitChars 10 digits 0 = w.toNat := by
  by_cases hne : digits = []
  · rw [hne]
    constructor
    · intro h
      cases h
    · intro h
      rcases h with ⟨hnil, _⟩
      exact absurd rfl hnil
  · have hplus : '+' ∉ digits := fun hmem => absurd (hdigits '+' hmem) (by decide)
    have hread (n : Nat) : natural 10 (UInt32.size - 1) digits = .ok n ↔
        Nat.ofDigitChars 10 digits 0 = n ∧ n ≤ UInt32.size - 1 := by
      rw [natural_of_digits _ hne hplus, magnitude_ten_eq_ok_iff _ (Nat.zero_le _)]
      exact and_iff_right hdigits
    rw [word32]
    constructor
    · intro h
      cases hn : natural 10 (UInt32.size - 1) digits with
      | error e => rw [hn] at h; cases h
      | ok n =>
          rw [hn] at h
          cases h
          have hvalue := (hread n).mp hn
          refine ⟨hne, ?_⟩
          rw [UInt32.toNat_ofNat_of_lt' (Nat.lt_of_le_pred (by decide) hvalue.right)]
          exact hvalue.left
    · intro h
      rcases h with ⟨_, hvalue⟩
      rw [(hread w.toNat).mpr ⟨hvalue, Nat.le_pred_of_lt w.toNat_lt⟩]
      show Except.ok (UInt32.ofNat w.toNat) = _
      rw [UInt32.ofNat_toNat]

theorem leading?_eq_some_iff {text : List Char} {w : UInt32} :
    leading? text = some w ↔ StartsWith text w.toNat := by
  rw [startsWith_iff, leading?, leadingDigits_eq,
    ← word32_ten_eq_ok_iff fun c hc => isDigit_of_mem_takeWhile hc]
  cases word32 10 (text.takeWhile Char.isDigit) with
  | error e => simp [Except.toOption]
  | ok v => simp [Except.toOption]

end Numeral
end EntryStop
