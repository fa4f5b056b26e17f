import Constituency.Cursor
import Constituency.Parser.Run

/-!
# Evaluating a body

A body is evaluated at the cursor. It gives the nodes it matched, none of them perhaps, or fails.
How a production is called is a parameter here, so this is a recursion on the body alone. A
repetition ends with the first iteration that consumes nothing; an iteration that consumes moves
the cursor on, so one iteration more than there are tokens left is enough.
-/
namespace Constituency

/--
Repeats a step until it fails or consumes nothing. Gives the nodes of all iterations and the number
of those that succeeded.
-/
def Run.iterate (step : Run → Option (List Tree) × Run) : Nat → Run → (List Tree × Nat) × Run
  | 0, run => (([], 0), run)
  | bound + 1, run =>
    match step run with
    | (none, after) => (([], 0), after)
    | (some nodes, after) =>
      -- Nothing was consumed, so a further iteration would do the same again.
      if after.position = run.position then ((nodes, 1), after)
      else
        let ((more, count), last) := Run.iterate step bound after
        ((nodes ++ more, count + 1), last)

/-- How often a repetition that starts at the cursor can succeed at most. -/
def Run.iterationBound (tokens : List Token) (run : Run) : Nat := tokens.length - run.position + 1

/-- The better of the best match so far and a new one: the new one only if it is longer. -/
def longer (best : Option (List Tree × Nat)) (nodes : Option (List Tree)) (stop : Nat) :
    Option (List Tree × Nat) :=
  match nodes, best with
  | none, _ => best
  | some nodes, none => some (nodes, stop)
  | some nodes, some (_, bestStop) => if stop ≤ bestStop then best else some (nodes, stop)

namespace Expr

variable (tokens : List Token) (call : Nat → Run → Option Tree × Run)

mutual

def evaluate : Expr Ref → Run → Option (List Tree) × Run
  | .terminal pattern, run =>
    match tokenMatching tokens run.position (some pattern) with
    | some token =>
      (some [.leaf token ⟨run.position, run.position + 1⟩], run.moveTo (run.position + 1))
    | none => (none, run)
  | .ref target, run =>
    match call target.id run with
    | (tree, after) => (tree.map fun tree => [tree], after)
  | .seq items, run =>
    match evaluateItems items run with
    | (some nodes, after) => (some nodes, after)
    -- The items in front of the one that failed have moved the cursor.
    | (none, after) => (none, after.moveTo run.position)
  | .opt body, run =>
    match body.evaluate run with
    | (nodes, after) => (some (nodes.getD []), after)
  | .star body, run =>
    match Run.iterate body.evaluate (run.iterationBound tokens) run with
    | ((nodes, _), after) => (some nodes, after)
  | .plus body, run =>
    match Run.iterate body.evaluate (run.iterationBound tokens) run with
    | ((nodes, count), after) => (if count = 0 then none else some nodes, after)
  | .longest alternatives, run =>
    match evaluateAlternatives alternatives run.position none run with
    | (some (nodes, stop), after) => (some nodes, after.moveTo stop)
    | (none, after) => (none, after)

/-- Evaluates items one behind the other until one fails. -/
def evaluateItems : List (Expr Ref) → Run → Option (List Tree) × Run
  | [], run => (some [], run)
  | item :: rest, run =>
    match item.evaluate run with
    | (none, after) => (none, after)
    | (some nodes, after) =>
      match evaluateItems rest after with
      | (more, last) => (more.map (nodes ++ ·), last)

/-- Evaluates every alternative at `start` and gives the longest match, the first one of these. -/
def evaluateAlternatives : List (Expr Ref) → Nat → Option (List Tree × Nat) → Run →
    Option (List Tree × Nat) × Run
  | [], _, best, run => (best, run)
  | alternative :: rest, start, best, run =>
    match alternative.evaluate run with
    | (nodes, after) =>
      evaluateAlternatives rest start (longer best nodes after.position) (after.moveTo start)

end

end Expr

end Constituency
