import Constituency.CharSet
import Constituency.Text.Hexadecimal
import Constituency.Text.Split

/-!
# Tables of characters

The data of the standard is written as lines of text, with code points in hexadecimal. A table of
one set lists its ranges, such as `41-5A AA`, with both ends included. A table of a property with
many values lists where each stretch of equal values begins, such as `0=Cc 20=Zs`; a stretch ends
where the next one begins, and the last one ends with the last character.
-/
namespace Constituency.Unicode

open Constituency.Text

/-- The items of a table, which blanks separate. -/
def items (lines : List String) : List (List Char) :=
  lines.flatMap fun line => pieces ' ' line.toList

def readRange (item : List Char) : Option (Nat × Nat) :=
  match splitFirst '-' item with
  | some (first, last) => do return (← hexNumber first, ← hexNumber last)
  | none => do
    let code ← hexNumber item
    return (code, code)

/-- The set that a table of ranges lists. -/
def setOf (lines : List String) : CharSet :=
  ((items lines).filterMap readRange).foldr
    (fun (first, last) s => s.addPlaces (placeOfCode first) (placeOfCode last)) .empty

def readStretch (item : List Char) : Option (Nat × String) := do
  let (start, value) ← splitFirst '=' item
  return (placeOfCode (← hexNumber start), String.ofList value)

/-- The stretches of equal values that a table lists, each with the place where it begins. -/
def stretches (lines : List String) : List (Nat × String) := (items lines).filterMap readStretch

/-- The characters in the stretches whose value is wanted. -/
def setWhere (table : List (Nat × String)) (wanted : String → Bool) : CharSet :=
  match table with
  | [] => .empty
  | (start, value) :: rest =>
    let behind := setWhere rest wanted
    if wanted value then
      behind.addPlaces start (((rest.head?.map Prod.fst).getD charCount) - 1)
    else behind

example : (setOf ["41-5A AA", "D7FF-E000"]).ranges =
    [(0x41, 0x5A), (0xAA, 0xAA), (0xD7FF, 0xD800)] := by decide +kernel

example : (setWhere (stretches ["0=Cc 20=Zs", "21=Po 10FFFE=Cn"]) (· != "Zs")).ranges =
    [(0, 0x1F), (0x21, 0x10F7FF)] := by decide +kernel

end Constituency.Unicode
