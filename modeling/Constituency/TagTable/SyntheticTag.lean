import Constituency.Text.Natural
import Constituency.Text.Split

/-!
# Synthetic tags

A rule that says more than a new tag leaves its mark in the tag: behind the base stand the number
of the rule and the number of the application, as in `PRP#12.3`. The base may be any text; it ends
at the last number sign.
-/
namespace Constituency

open Constituency.Text

structure SyntheticTag where
  base : String
  ordinal : Nat
  occurrence : Nat
deriving DecidableEq, Repr

namespace SyntheticTag

def display (tag : SyntheticTag) : String :=
  tag.base ++ "#" ++ toString tag.ordinal ++ "." ++ toString tag.occurrence

def read (tag : String) : Option SyntheticTag := do
  let (base, suffix) ← splitLast '#' tag.toList
  let (ordinal, occurrence) ← splitFirst '.' suffix
  if base.isEmpty then none
  else return ⟨String.ofList base, ← readNatural ordinal, ← readNatural occurrence⟩

/-- The number of the rule and of the application, as they stand behind the number sign. -/
def suffix (tag : SyntheticTag) : List Char :=
  Nat.toDigits 10 tag.ordinal ++ '.' :: Nat.toDigits 10 tag.occurrence

theorem toList_display (tag : SyntheticTag) :
    tag.display.toList = tag.base.toList ++ '#' :: tag.suffix := by
  simp [display, suffix]

theorem not_mem_toDigits {c : Char} (n : Nat) (other : isDigit c = false) :
    c ∉ Nat.toDigits 10 n := fun digit => by
  simp [isDigit_of_mem_toDigits digit] at other

/-- The base ends at the last number sign, since none stands behind it. -/
theorem splitLast_display (tag : SyntheticTag) :
    splitLast '#' tag.display.toList = some (tag.base.toList, tag.suffix) := by
  have noDigit : isDigit '#' = false := by decide
  have absent : '#' ∉ tag.suffix := by simp [suffix, not_mem_toDigits _ noDigit]
  rw [toList_display, splitLast_append _ absent]

theorem splitFirst_suffix (tag : SyntheticTag) :
    splitFirst '.' tag.suffix =
      some (Nat.toDigits 10 tag.ordinal, Nat.toDigits 10 tag.occurrence) :=
  splitFirst_append (not_mem_toDigits _ (by decide)) _

/-- A tag is read back unless its base is empty or one of its numbers is out of range. -/
theorem read_display_eq (tag : SyntheticTag) (based : tag.base ≠ "") :
    read tag.display =
      if tag.ordinal ≤ maxWord ∧ tag.occurrence ≤ maxWord then some tag else none := by
  have nonempty : tag.base.toList.isEmpty = false := by simpa using based
  simp only [read, splitLast_display, splitFirst_suffix, nonempty, readNatural_toDigits,
    String.ofList_toList, bind, Option.bind_some]
  by_cases ordinal : tag.ordinal ≤ maxWord <;> by_cases occurrence : tag.occurrence ≤ maxWord <;>
    simp [ordinal, occurrence]

/-- A tag tells its base and both numbers, whatever the base is. -/
theorem display_inj {tag other : SyntheticTag} : tag.display = other.display ↔ tag = other := by
  refine ⟨fun same => ?_, congrArg display⟩
  have cut := splitLast_display tag
  rw [same, splitLast_display, Option.some.injEq, Prod.mk.injEq] at cut
  obtain ⟨base, suffix⟩ := cut
  have numbers := splitFirst_suffix tag
  rw [← suffix, splitFirst_suffix, Option.some.injEq, Prod.mk.injEq] at numbers
  have ordinal := congrArg decimalValue numbers.1
  have occurrence := congrArg decimalValue numbers.2
  rw [decimalValue_toDigits, decimalValue_toDigits] at ordinal occurrence
  obtain ⟨base', ordinal', occurrence'⟩ := tag
  simp only [String.toList_inj] at base
  subst base ordinal occurrence
  rfl

end SyntheticTag

end Constituency
