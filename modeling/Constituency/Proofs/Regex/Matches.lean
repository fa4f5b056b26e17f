import Constituency.Regex.Node
import Mathlib.Data.Option.Basic

/-!
# What a pattern matches

A pattern tree matches a stretch of a text, from one position to another, and saves the positions of
its groups on the way. How it is searched for does not matter here: of several ways to match none is
preferred, and a repetition may go round as often as its bounds allow, also without consuming
anything.
-/
namespace Constituency.Regex

/-! ## Matches -/

/-- A node matches from one position to another and saves positions, the latest one first. -/
inductive Node.Matches (text : Array Char) : Node → Nat → Nat → List (Nat × Nat) → Prop
  | empty {position : Nat} : Matches text .empty position position []
  | set {s : CharSet} {position : Nat} {c : Char} (here : text[position]? = some c)
    (member : s.contains c = true) : Matches text (.set s) position (position + 1) []
  | look {condition : Look} {position : Nat} (holds : condition.holds text position = true) :
    Matches text (.look condition) position position []
  | seq {first second : Node} {start middle stop : Nat} {saved later : List (Nat × Nat)}
    (front : Matches text first start middle saved)
    (back : Matches text second middle stop later) :
    Matches text (.seq first second) start stop (later ++ saved)
  | left {first second : Node} {start stop : Nat} {saved : List (Nat × Nat)}
    (taken : Matches text first start stop saved) :
    Matches text (.alt first second) start stop saved
  | right {first second : Node} {start stop : Nat} {saved : List (Nat × Nat)}
    (taken : Matches text second start stop saved) :
    Matches text (.alt first second) start stop saved
  /-- No round is needed any more. -/
  | stop {greedy : Bool} {high : Option Nat} {body : Node} {position : Nat} :
    Matches text (.rep greedy 0 high body) position position []
  /-- One more round, where one is needed or allowed. -/
  | round {greedy : Bool} {low : Nat} {high : Option Nat} {body : Node}
    {start middle stop : Nat} {saved later : List (Nat × Nat)}
    (room : 0 < low ∨ high ≠ some 0) (first : Matches text body start middle saved)
    (others : Matches text (.rep greedy (low - 1) (high.map (· - 1)) body) middle stop later) :
    Matches text (.rep greedy low high body) start stop (later ++ saved)
  | group {index : Nat} {body : Node} {start stop : Nat} {saved : List (Nat × Nat)}
    (inside : Matches text body start stop saved) :
    Matches text (.group index body) start stop
      ((2 * index + 1, stop) :: (saved ++ [(2 * index, start)]))

namespace Node

variable {text : Array Char} {start stop : Nat} {saved : List (Nat × Nat)}

theorem matches_seq {first second : Node} :
    (Node.seq first second).Matches text start stop saved ↔
      ∃ middle before after, first.Matches text start middle before ∧
        second.Matches text middle stop after ∧ saved = after ++ before := by
  constructor
  · intro matched
    cases matched with
    | seq front back => exact ⟨_, _, _, front, back, rfl⟩
  · rintro ⟨middle, before, after, front, back, rfl⟩
    exact .seq front back

theorem matches_group {index : Nat} {body : Node} :
    (Node.group index body).Matches text start stop saved ↔
      ∃ inner, body.Matches text start stop inner ∧
        saved = (2 * index + 1, stop) :: (inner ++ [(2 * index, start)]) := by
  constructor
  · intro matched
    cases matched with
    | group inside => exact ⟨_, inside, rfl⟩
  · rintro ⟨inner, inside, rfl⟩
    exact .group inside

end Node

/-! ## Rounds -/

/-- So many matches of a node in a row. -/
inductive Node.Rounds (text : Array Char) (body : Node) :
    Nat → Nat → Nat → List (Nat × Nat) → Prop
  | none {position : Nat} : Rounds text body 0 position position []
  | more {count start middle stop : Nat} {saved later : List (Nat × Nat)}
    (first : body.Matches text start middle saved)
    (others : Rounds text body count middle stop later) :
    Rounds text body (count + 1) start stop (later ++ saved)

namespace Node

variable {text : Array Char} {body : Node}

theorem Rounds.append {count more start middle stop : Nat} {saved later : List (Nat × Nat)}
    (front : Rounds text body count start middle saved)
    (back : Rounds text body more middle stop later) :
    Rounds text body (count + more) start stop (later ++ saved) := by
  induction front with
  | none => simpa using back
  | more first others ih =>
    rw [Nat.add_right_comm, ← List.append_assoc]
    exact .more first (ih back)

theorem Matches.rep_of_rounds {greedy : Bool} {low count start stop : Nat} {high : Option Nat}
    {saved : List (Nat × Nat)} (rounds : Rounds text body count start stop saved)
    (enough : low ≤ count) (few : ∀ limit ∈ high, count ≤ max low limit) :
    (Node.rep greedy low high body).Matches text start stop saved := by
  induction rounds generalizing low high with
  | none =>
    obtain rfl := Nat.le_zero.mp enough
    exact .stop
  | @more count _ _ _ _ _ first others ih =>
    refine .round ?_ first (ih (by omega) ?_)
    · by_contra no
      simp only [not_or, not_not] at no
      have := few 0 no.2
      omega
    · intro limit bound
      obtain ⟨former, limited, rfl⟩ := Option.mem_map.mp bound
      have := few former limited
      omega

/-! ## Where matches are -/

/-- The numbers of the groups of a node. -/
def groups : Node → List Nat
  | .empty | .set _ | .look _ => []
  | .seq first second | .alt first second => first.groups ++ second.groups
  | .rep _ _ _ body => body.groups
  | .group index body => index :: body.groups

/-- Only groups save positions. -/
theorem Matches.saved_eq_nil {node : Node} {start stop : Nat} {saved : List (Nat × Nat)}
    (matched : node.Matches text start stop saved) (bare : node.groups = []) : saved = [] := by
  induction matched with
  | empty | set | look | stop => rfl
  | seq _ _ ihFront ihBack =>
    obtain ⟨front, back⟩ := List.append_eq_nil_iff.mp bare
    rw [ihFront front, ihBack back]
    rfl
  | left _ ih => exact ih (List.append_eq_nil_iff.mp bare).1
  | right _ ih => exact ih (List.append_eq_nil_iff.mp bare).2
  | round _ _ _ ihFirst ihOthers =>
    rw [ihFirst bare, ihOthers bare]
    rfl
  | group => contradiction

theorem Matches.start_le_stop {node : Node} {start stop : Nat} {saved : List (Nat × Nat)}
    (matched : node.Matches text start stop saved) : start ≤ stop := by
  induction matched with
  | empty | look | stop => exact Nat.le_refl _
  | set => exact Nat.le_succ _
  | seq _ _ ihFront ihBack => exact Nat.le_trans ihFront ihBack
  | left _ ih | right _ ih | group _ ih => exact ih
  | round _ _ _ ihFirst ihOthers => exact Nat.le_trans ihFirst ihOthers

end Node

end Constituency.Regex
