/-!
# Numerals

Numbers as they stand in text: an optional sign and digits of one base, with
nothing else around or between them.  The digits are read from the left, and
the first one that is no digit or leads past the greatest value decides.
-/

namespace EntryStop

inductive NumeralError where
  | empty
  | invalidDigit
  | tooLarge
  | tooSmall
  deriving DecidableEq, Repr

namespace NumeralError

def message : NumeralError -> String
  | empty => "cannot parse integer from empty string"
  | invalidDigit => "invalid digit found in string"
  | tooLarge => "number too large to fit in target type"
  | tooSmall => "number too small to fit in target type"

end NumeralError

namespace Numeral

def digit? (base : Nat) (c : Char) : Option Nat :=
  let n := c.toNat
  let value :=
    if 0x30 ≤ n ∧ n ≤ 0x39 then some (n - 0x30)
    else if 0x41 ≤ n ∧ n ≤ 0x5A then some (n - 0x41 + 10)
    else if 0x61 ≤ n ∧ n ≤ 0x7A then some (n - 0x61 + 10)
    else none
  value.filter (· < base)

/-- The value of `acc` followed by the digits, none above `limit`. -/
def magnitude (base limit : Nat) (overflow : NumeralError) :
    Nat -> List Char -> Except NumeralError Nat
  | acc, [] => .ok acc
  | acc, c :: cs =>
      match digit? base c with
      | none => .error .invalidDigit
      | some d =>
          if acc * base + d ≤ limit then
            magnitude base limit overflow (acc * base + d) cs
          else .error overflow

def natural (base limit : Nat) : List Char -> Except NumeralError Nat
  | [] => .error .empty
  | ['+'] => .error .invalidDigit
  | '+' :: digits => magnitude base limit .tooLarge 0 digits
  | digits => magnitude base limit .tooLarge 0 digits

/-- A number from `-(limit + 1)` to `limit`; either sign may stand before the
digits. -/
def integer (base limit : Nat) : List Char -> Except NumeralError Int
  | [] => .error .empty
  | ['+'] => .error .invalidDigit
  | ['-'] => .error .invalidDigit
  | '+' :: digits => (magnitude base limit .tooLarge 0 digits).map Int.ofNat
  | '-' :: digits =>
      (magnitude base (limit + 1) .tooSmall 0 digits).map fun n => -Int.ofNat n
  | digits => (magnitude base limit .tooLarge 0 digits).map Int.ofNat

/-!
## Machine integers
-/

def word16 (base : Nat) (digits : List Char) : Except NumeralError UInt16 :=
  (natural base (UInt16.size - 1) digits).map UInt16.ofNat

def word32 (base : Nat) (digits : List Char) : Except NumeralError UInt32 :=
  (natural base (UInt32.size - 1) digits).map UInt32.ofNat

def word64 (base : Nat) (digits : List Char) : Except NumeralError UInt64 :=
  (natural base (UInt64.size - 1) digits).map UInt64.ofNat

def signed32 (digits : List Char) : Except NumeralError Int32 :=
  (integer 10 0x7FFFFFFF digits).map Int32.ofInt

def leadingDigits (text : List Char) : List Char :=
  text.takeWhile fun c => (digit? 10 c).isSome

def leading? (text : List Char) : Option UInt32 :=
  (word32 10 (leadingDigits text)).toOption

/-!
## Bounds
-/

theorem magnitude_nil (base limit : Nat) (overflow : NumeralError) (acc : Nat) :
    magnitude base limit overflow acc [] = .ok acc := rfl

end Numeral
end EntryStop
