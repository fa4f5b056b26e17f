import Constituency.Regex.Node

/-!
# Programs

A pattern tree is laid out as a list of instructions. The code of a node placed at address `base`
fills the addresses from `base` up to `base + node.size` and is left at the address behind its last
instruction, so the code of two nodes in a row is one list behind the other. Where there is a
choice, a fork names the address to try first and the one to try afterwards. A counted repetition
is laid out as copies of its part. Where a loop is entered and where it is left decides which
captures survive a round that matches nothing, so a part that always consumes something loops
through one fork, and any other part through two.
-/
namespace Constituency.Regex

inductive Inst where
  | consume (s : CharSet)
  | require (condition : Look)
  | save (slot : Nat)
  | jump (target : Nat)
  | fork (first second : Nat)
  | accept
deriving DecidableEq, Repr

/-- A fork that tries `inside` first when greedy and `outside` first when not. -/
def Inst.choice (greedy : Bool) (inside outside : Nat) : Inst :=
  if greedy then .fork inside outside else .fork outside inside

namespace Node

/-- The number of instructions of a node's code. -/
def size : Node → Nat
  | .empty => 0
  | .set _ => 1
  | .look _ => 1
  | .seq first second => first.size + second.size
  | .alt first second => first.size + second.size + 2
  | .rep _ 0 none body => body.size + 2
  | .rep _ low none body => low * body.size + 1
  | .rep _ low (some high) body => low * body.size + (high - low) * (body.size + 1)
  | .group _ body => body.size + 2

/-- So many pieces of code of one size in a row. -/
def copies (count size : Nat) (code : Nat → List Inst) (base : Nat) : List Inst :=
  (List.range count).flatMap fun index => code (base + index * size)

/-- The code of a node that starts at address `base`. -/
def code : Node → Nat → List Inst
  | .empty, _ => []
  | .set s, _ => [.consume s]
  | .look condition, _ => [.require condition]
  | .seq first second, base => first.code base ++ second.code (base + first.size)
  | .alt first second, base =>
    let other := base + first.size + 2
    .fork (base + 1) other :: first.code (base + 1) ++
      .jump (other + second.size) :: second.code other
  | .rep greedy 0 none body, base =>
    let stop := base + body.size + 2
    -- A round that consumes nothing must not lead back to the entry of the loop.
    .choice greedy (base + 1) stop :: body.code (base + 1) ++
      [if body.isProductive then .jump base else .choice greedy (base + 1) stop]
  | .rep greedy low none body, base =>
    let last := base + (low - 1) * body.size
    copies low body.size body.code base ++ [.choice greedy last (last + body.size + 1)]
  | .rep greedy low (some high) body, base =>
    let first := base + low * body.size
    let stop := first + (high - low) * (body.size + 1)
    copies low body.size body.code base ++
      copies (high - low) (body.size + 1)
        (fun base => .choice greedy (base + 1) stop :: body.code (base + 1)) first
  | .group index body, base =>
    .save (2 * index) :: body.code (base + 1) ++ [.save (2 * index + 1)]

theorem length_copies {count size : Nat} {code : Nat → List Inst}
    (length : ∀ base, (code base).length = size) (base : Nat) :
    (copies count size code base).length = count * size := by
  simp only [copies, List.length_flatMap, length, List.map_const', List.sum_replicate_nat,
    List.length_range]

@[simp] theorem length_code (node : Node) (base : Nat) : (node.code base).length = node.size := by
  induction node generalizing base with
  | empty | set | look => rfl
  | seq first second ihFirst ihSecond => simp [code, size, ihFirst, ihSecond]
  | alt first second ihFirst ihSecond =>
    simp only [code, size, List.cons_append, List.length_cons, List.length_append, ihFirst,
      ihSecond]
    omega
  | rep greedy low high body ih =>
    match low, high with
    | 0, none => simp [code, size, ih]
    | low + 1, none => simp [code, size, length_copies ih]
    | low, some high =>
      rw [code, size, List.length_append, length_copies ih]
      congr 1
      exact length_copies (fun base => by simp [ih]) _
  | group index body ih =>
    simp only [code, size, List.cons_append, List.length_cons, List.length_append, ih,
      List.length_nil]

/-- Skips any number of characters, as few as possible, and goes on at address 3. -/
def skipAhead : List Inst := [.fork 3 1, .consume .any, .jump 0]

/--
The program of a whole pattern: it skips ahead to the leftmost match and saves its ends as group 0.
-/
def program (node : Node) : Array Inst :=
  (skipAhead ++ (Node.group 0 node).code 3 ++ [Inst.accept]).toArray

end Node

end Constituency.Regex
