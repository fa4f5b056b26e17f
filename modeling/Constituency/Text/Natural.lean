/-!
# Reading natural numbers

A number is one or more decimal digits, with a plus sign in front if one likes. The numbers of a
synthetic tag, of a capture reference and of the step budget share one range, that of 64-bit
words, and a numeral beyond it is no number at all.
-/
namespace Constituency.Text

/-- The largest number that can be read where no smaller range is named. -/
def maxWord : Nat := 0xFFFFFFFFFFFFFFFF

def isDigit (c : Char) : Bool := '0' ≤ c && c ≤ '9'

def digitValue (c : Char) : Nat := c.toNat - '0'.toNat

/-- The value of a run of decimal digits, most significant first. -/
def decimalValue (digits : List Char) : Nat :=
  digits.foldl (fun value c => 10 * value + digitValue c) 0

/-- Reads digits only, up to `limit`. -/
def readDecimal (limit : Nat) (text : List Char) : Option Nat :=
  if text ≠ [] ∧ text.all isDigit ∧ decimalValue text ≤ limit then some (decimalValue text)
  else none

/-- Reads a natural number with an optional plus sign. -/
def readNatural : List Char → Option Nat
  | '+' :: digits => readDecimal maxWord digits
  | digits => readDecimal maxWord digits

/-! ### Reading what was written -/

theorem isDigit_of_mem_toDigits {n : Nat} {c : Char} (digit : c ∈ Nat.toDigits 10 n) :
    isDigit c = true :=
  Nat.isDigit_of_mem_toDigits (by decide) (Nat.le_refl 10) digit

theorem decimalValue_toDigits (n : Nat) : decimalValue (Nat.toDigits 10 n) = n :=
  Nat.ofDigitChars_ten_toDigits

/-- A number that is written in decimal is read back, unless it is out of range. -/
theorem readNatural_toDigits (n : Nat) :
    readNatural (Nat.toDigits 10 n) = if n ≤ maxWord then some n else none := by
  have digits : (Nat.toDigits 10 n).all isDigit = true :=
    List.all_eq_true.mpr fun _ => isDigit_of_mem_toDigits
  have decimal : readDecimal maxWord (Nat.toDigits 10 n) =
      if n ≤ maxWord then some n else none := by
    simp [readDecimal, Nat.toDigits_ne_nil, digits, decimalValue_toDigits]
  unfold readNatural
  split
  next rest shape =>
    -- A plus sign is no digit.
    have plus : isDigit '+' = true := isDigit_of_mem_toDigits (shape ▸ List.mem_cons_self ..)
    exact absurd plus (by decide)
  next => exact decimal

end Constituency.Text
