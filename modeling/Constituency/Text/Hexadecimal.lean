import Constituency.Text.Natural

/-!
# Hexadecimal numerals

The digits of code points, in escapes and in tables of characters. Letters count in either case.
-/
namespace Constituency.Text

def hexValue (c : Char) : Option Nat :=
  if isDigit c then some (digitValue c)
  else if 'a' ≤ c ∧ c ≤ 'f' then some (c.toNat - 'a'.toNat + 10)
  else if 'A' ≤ c ∧ c ≤ 'F' then some (c.toNat - 'A'.toNat + 10)
  else none

/-- The value of a run of hexadecimal digits, most significant first. -/
def hexNumber (digits : List Char) : Option Nat :=
  digits.foldl (fun value c => do return 16 * (← value) + (← hexValue c)) (some 0)

example : hexNumber ['d', '7', 'A', '3'] = some 0xD7A3 := by decide

end Constituency.Text
