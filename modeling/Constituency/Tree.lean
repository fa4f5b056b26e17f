import Constituency.Text.Split
import Constituency.Token

/-!
# Constituent trees

A leaf is a token, a branch carries the name of a production and its children in order. Every node
has a span, the positions from its first token up to behind its last one. A tree has two written
forms, one line with brackets and an indented outline.
-/
namespace Constituency

structure Span where
  start : Nat
  stop : Nat
deriving DecidableEq, Repr

def Span.display (span : Span) : String := toString span.start ++ ".." ++ toString span.stop

inductive Tree where
  | leaf (token : Token) (span : Span)
  | branch (label : String) (span : Span) (children : List Tree)
deriving Repr

namespace Tree

mutual

def decEq : (s t : Tree) → Decidable (s = t)
  | .leaf token span, .leaf token' span' =>
    decidable_of_iff (token = token' ∧ span = span') (by simp)
  | .leaf .., .branch .. => .isFalse (by simp)
  | .branch .., .leaf .. => .isFalse (by simp)
  | .branch label span children, .branch label' span' children' =>
    match decEqAll children children' with
    | .isTrue same => decidable_of_iff (label = label' ∧ span = span') (by simp [same])
    | .isFalse different => .isFalse (by simp [different])

def decEqAll : (s t : List Tree) → Decidable (s = t)
  | [], [] => .isTrue rfl
  | [], _ :: _ => .isFalse (by simp)
  | _ :: _, [] => .isFalse (by simp)
  | s :: ss, t :: ts =>
    match decEq s t, decEqAll ss ts with
    | .isTrue same, .isTrue others => .isTrue (by rw [same, others])
    | .isFalse different, _ => .isFalse (by simp [different])
    | _, .isFalse different => .isFalse (by simp [different])

end

instance : DecidableEq Tree := decEq

def isLeaf : Tree → Bool
  | .leaf .. => true
  | .branch .. => false

/-- The token and span of a leaf. -/
def leaf? : Tree → Option (Token × Span)
  | .leaf token span => some (token, span)
  | .branch .. => none

/-- The label, span and children of a branch. -/
def branch? : Tree → Option (String × Span × List Tree)
  | .leaf .. => none
  | .branch label span children => some (label, span, children)

def label? : Tree → Option String
  | .leaf .. => none
  | .branch label .. => some label

def span : Tree → Span
  | .leaf _ span => span
  | .branch _ span _ => span

/-- The children of a branch; a leaf has none. -/
def children : Tree → List Tree
  | .leaf .. => []
  | .branch _ _ children => children

mutual

/-- The leaves from left to right. -/
def leaves : Tree → List (Token × Span)
  | .leaf token span => [(token, span)]
  | .branch _ _ children => leavesAll children

def leavesAll : List Tree → List (Token × Span)
  | [] => []
  | child :: rest => child.leaves ++ leavesAll rest

end

mutual

/-- The number of branches on the longest way from the root to a leaf. -/
def depth : Tree → Nat
  | .leaf .. => 0
  | .branch _ _ children => depthAll children + 1

def depthAll : List Tree → Nat
  | [] => 0
  | child :: rest => max child.depth (depthAll rest)

end

/-- The span from the first of some nodes to the last one, or `span` if there are none. -/
def coverOr (span : Span) (children : List Tree) : Span :=
  match children.head?, children.getLast? with
  | some first, some last => ⟨first.span.start, last.span.stop⟩
  | _, _ => span

mutual

/-- Gives every branch the span its children cover. A branch without children keeps its span. -/
def recomputeSpans : Tree → Tree
  | .leaf token span => .leaf token span
  | .branch label span children =>
    let children := recomputeSpansAll children
    .branch label (coverOr span children) children

def recomputeSpansAll : List Tree → List Tree
  | [] => []
  | child :: rest => child.recomputeSpans :: recomputeSpansAll rest

end

/-! ## Written forms -/

mutual

/-- The form on one line: the label and the children of a branch between brackets. -/
def bracketed : Tree → String
  | .leaf token _ => token.display
  | .branch label _ children => "[" ++ label ++ bracketedAll children ++ "]"

def bracketedAll : List Tree → String
  | [] => ""
  | child :: rest => " " ++ child.bracketed ++ bracketedAll rest

end

/-- A node's span and what stands at it. -/
def heading (span : Span) (value : String) : String := span.display ++ ": " ++ value

open Text in
mutual

/--
The indented form. An only child stays on the line of its parent; any other number of children
stand below it, each line of theirs two places further to the right.
-/
def outline : Tree → List Char
  | .leaf token span => (heading span token.display).toList
  | .branch label span [child] =>
    '(' :: (heading span label).toList ++ [' ', '('] ++ outline child ++ [')', ')']
  | .branch label span children =>
    '(' :: (heading span label).toList ++ outlineBelow children ++ [')']

def outlineBelow : List Tree → List Char
  | [] => []
  | child :: rest =>
    (lines (outline child)).flatMap (fun line => '\n' :: ' ' :: ' ' :: line) ++ outlineBelow rest

end

def display (tree : Tree) : String := String.ofList tree.outline

end Tree

end Constituency
