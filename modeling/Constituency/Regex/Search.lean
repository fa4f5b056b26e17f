import Constituency.PairOrder
import Constituency.Regex.Program
import Std.Data.TreeSet

/-!
# Search

A program is run on a text by following its threads, the most preferred one first. A thread is an
address, a position of the text, and what has been saved on the way. A pair of address and position
is followed once only: whoever comes there later would reach nothing new, and less preferred. The
number of such pairs bounds the search, so the bound is never what ends it.
-/
namespace Constituency.Regex

structure Thread where
  address : Nat
  position : Nat
  /-- The saved positions, the latest one first. -/
  saved : List (Nat × Nat)
deriving DecidableEq, Repr

/-- The threads that continue a thread behind one instruction, the preferred one first. -/
def Inst.next (text : Array Char) (thread : Thread) : Inst → List Thread
  | .consume s =>
    match text[thread.position]? with
    | some c =>
      if s.contains c then
        [{ thread with address := thread.address + 1, position := thread.position + 1 }]
      else []
    | none => []
  | .require condition =>
    if condition.holds text thread.position then
      [{ thread with address := thread.address + 1 }]
    else []
  | .save slot =>
    [{ thread with
        address := thread.address + 1
        saved := (slot, thread.position) :: thread.saved }]
  | .jump target => [{ thread with address := target }]
  | .fork first second => [{ thread with address := first }, { thread with address := second }]
  | .accept => []

/-- Follows the waiting threads in order and gives the first one that is accepted. -/
def follow (program : Array Inst) (text : Array Char) :
    Nat → Std.TreeSet (Nat × Nat) comparePair → List Thread → Option Thread
  | 0, _, _ => none
  | _ + 1, _, [] => none
  | room + 1, visited, thread :: waiting =>
    -- Another thread was here before, and all it could reach was refused.
    if visited.contains (thread.address, thread.position) then
      follow program text room visited waiting
    else
      match program[thread.address]? with
      | some .accept => some thread
      | some inst =>
        follow program text room (visited.insert (thread.address, thread.position))
          (inst.next text thread ++ waiting)
      | none => follow program text room visited waiting

/-- Each pair of address and position is left by at most two threads. -/
def searchRoom (program : Array Inst) (text : Array Char) : Nat :=
  2 * (program.size * (text.size + 1)) + 2

/-- The accepted thread of the leftmost and most preferred match. -/
def search (program : Array Inst) (text : Array Char) : Option Thread :=
  follow program text (searchRoom program text) ∅ [⟨0, 0, []⟩]

end Constituency.Regex
