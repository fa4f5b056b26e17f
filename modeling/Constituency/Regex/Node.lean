import Constituency.Unicode.Query

/-!
# Pattern trees

A pattern is a tree over sets of characters and positions. A character is the set of itself. The
trees are kept simple while they are built: a sequence holds no sequence and nothing empty, an
alternative no alternative, what all alternatives begin with stands in front of them, and a part
that matches only the empty text is repeated at most once. Each repetition, and each alternative,
says which way it is tried first; that order decides which of several matches is taken, never
whether there is one.
-/
namespace Constituency.Regex

/-- Where a position lies between word characters and others. -/
inductive WordEdge where
  | boundary
  | noBoundary
  | start
  | stop
  | startHalf
  | stopHalf
deriving DecidableEq, Repr

/-- A condition on a position of the text, which consumes nothing. -/
inductive Look where
  | textStart
  | textEnd
  | lineStart
  | lineEnd
  | lineStartReturn
  | lineEndReturn
  /-- An edge between words, either of any script or of ASCII characters. -/
  | word (edge : WordEdge) (unicode : Bool)
deriving DecidableEq, Repr

inductive Node where
  | empty
  | set (s : CharSet)
  | look (condition : Look)
  | seq (first second : Node)
  | alt (first second : Node)
  | rep (greedy : Bool) (low : Nat) (high : Option Nat) (body : Node)
  | group (index : Nat) (body : Node)
deriving DecidableEq, Repr

namespace Node

/-- Whether a node can only match the empty text. -/
def isWidthless : Node → Bool
  | .empty => true
  | .set _ => false
  | .look _ => true
  | .seq first second => first.isWidthless && second.isWidthless
  | .alt first second => first.isWidthless && second.isWidthless
  | .rep _ _ _ body => body.isWidthless
  | .group _ body => body.isWidthless

/-- The least length of a match; a part that matches nothing at all leaves it open. -/
def leastLength? : Node → Option Nat
  | .empty => some 0
  | .set s => if s.isEmpty then none else some 1
  | .look _ => some 0
  | .seq first second => do return (← first.leastLength?) + (← second.leastLength?)
  | .alt first second => do return min (← first.leastLength?) (← second.leastLength?)
  | .rep _ low _ body => body.leastLength?.map (low * ·)
  | .group _ body => body.leastLength?

/-- Whether a node is known to consume a character each time. -/
def isProductive (node : Node) : Bool := node.leastLength?.any (0 < ·)

/-- The one character that a node stands for. -/
def only? : Node → Option Char
  | .set s => s.only?
  | _ => none

/-! ## Sequences -/

/-- The parts of a sequence. -/
def items : Node → List Node
  | .empty => []
  | .seq first second => first.items ++ second.items
  | node => [node]

def seqAll : List Node → Node
  | [] => .empty
  | [node] => node
  | node :: others => .seq node (seqAll others)

/-- One node behind the other. -/
def concat (nodes : List Node) : Node := seqAll (nodes.flatMap items)

/-- The parts of a sequence, where characters in a row count as one part. -/
def chunks (node : Node) : List (List Node) :=
  node.items.splitBy fun left right => left.only?.isSome && right.only?.isSome

/-! ## Alternatives -/

/-- The alternatives that a node offers. -/
def branches : Node → List Node
  | .alt first second => first.branches ++ second.branches
  | node => [node]

def altAll : List Node → Node
  | [] => .set .empty
  | [node] => node
  | node :: others => .alt node (altAll others)

/-- The union of alternatives that are all characters, or all sets of other sizes. -/
def union? (nodes : List Node) : Option CharSet := do
  let sets ← nodes.mapM fun node => match node with
    | .set s => some s
    | _ => none
  if sets.all (·.only?.isSome) || sets.all (·.only?.isNone) then
    return sets.foldr (fun s t => t.union s) .empty
  else none

/-- One of the nodes, the first one preferred. -/
def unite (nodes : List Node) : Node :=
  match nodes.flatMap branches with
  | [] => .set .empty
  | [node] => node
  | nodes =>
    match union? nodes with
    | some s => .set s
    | none => altAll nodes

/-- How many items two lists have in common at their beginnings. -/
def sharedLength {α : Type} [DecidableEq α] : List α → List α → Nat
  | x :: xs, y :: ys => if x = y then sharedLength xs ys + 1 else 0
  | _, _ => 0

/--
What several sequences begin with, and what is left of each. A text of characters only is no
sequence, since it counts as one part.
-/
def splitPrefix? (nodes : List Node) : Option (List Node × List Node) :=
  match nodes.map chunks with
  | first :: second :: others =>
    let all := first :: second :: others
    let count := (second :: others).foldl (fun count list => min count (sharedLength first list))
      first.length
    if all.all (2 ≤ ·.length) ∧ 0 < count then
      some ((first.take count).flatten, all.map fun list => concat (list.drop count).flatten)
    else none
  | _ => none

/-- One of the nodes, the first one preferred, with what they all begin with in front of them. -/
def alternation (nodes : List Node) : Node :=
  match splitPrefix? (nodes.flatMap branches) with
  | some (shared, rests) => concat (shared ++ [unite rests])
  | none => unite nodes

/-! ## Repetitions -/

/-- At least `low` copies of a node and, where there is an upper bound, at most that many. -/
def repeated (greedy : Bool) (low : Nat) (high : Option Nat) (body : Node) : Node :=
  let (low, high) :=
    if body.isWidthless then (min low 1, some ((high.map (min · 1)).getD 1)) else (low, high)
  if high = some 0 then .empty
  else if low = 1 ∧ high = some 1 then body
  else .rep greedy low high body

end Node

/-- The character before a position, if the position is not the first one. -/
def charBefore (text : Array Char) (position : Nat) : Option Char :=
  if position = 0 then none else text[position - 1]?

/-- Whether there is a character and it is in the set. -/
def within (s : CharSet) (c : Option Char) : Bool := c.any s.contains

/-- Whether an edge lies between two places, one of which may hold a word character. -/
def WordEdge.holds (before after : Bool) : WordEdge → Bool
  | .boundary => before != after
  | .noBoundary => before == after
  | .start => !before && after
  | .stop => before && !after
  | .startHalf => !before
  | .stopHalf => !after

namespace Look

/-- The characters that words are made of. -/
def wordSet (unicode : Bool) : CharSet := if unicode then Unicode.word else .asciiWord

def holds (text : Array Char) (position : Nat) : Look → Bool
  | .textStart => position == 0
  | .textEnd => position == text.size
  | .lineStart => position == 0 || before == some '\n'
  | .lineEnd => position == text.size || after == some '\n'
  | .lineStartReturn =>
    position == 0 || before == some '\n' || (before == some '\r' && after != some '\n')
  | .lineEndReturn =>
    position == text.size || after == some '\r' || (after == some '\n' && before != some '\r')
  | .word edge unicode =>
    edge.holds (within (wordSet unicode) before) (within (wordSet unicode) after)
where
  before : Option Char := charBefore text position
  after : Option Char := text[position]?

end Look

end Constituency.Regex
