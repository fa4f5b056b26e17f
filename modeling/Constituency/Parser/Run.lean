import Constituency.Grammar.Basic
import Constituency.PairOrder
import Constituency.Tree
import Std.Data.TreeMap

/-!
# The state of a parse

A parse attempts productions at positions. The state of a run holds the cursor, the attempts that
are under way, the outcomes that are known for good, and four counters of what has happened. An
attempt first passes a gate, which may answer it at once; if not, its body is evaluated and the
outcome settled. An outcome is kept only if the guard against re-entry was silent in between,
because only then does it not depend on which attempts were under way.
-/
namespace Constituency

structure ParseOptions where
  /-- Keep the outcome of each production at each position. -/
  memoize : Bool := true
  /-- How many attempts may be made in all. -/
  maxSteps : Option Nat := none
deriving DecidableEq, Repr

inductive ParseError where
  | unexpectedToken (position : Nat) (token : Token)
  | unexpectedEnd (position : Nat)
  | stepLimit (steps : Nat)
deriving DecidableEq, Repr

namespace ParseError

def message : ParseError → String
  | .unexpectedToken position token =>
    "unexpected " ++ token.display ++ " at position " ++ toString position
  | .unexpectedEnd position => "unexpected end of input at position " ++ toString position
  | .stepLimit steps => "gave up after " ++ toString steps ++ " production attempts"

/-- The position the parse could not get beyond, if it was not given up. -/
def furthest? : ParseError → Option Nat
  | .unexpectedToken position _ => some position
  | .unexpectedEnd position => some position
  | .stepLimit _ => none

end ParseError

/-- A production, by its place, at a position. -/
abbrev Attempt := Nat × Nat

/-- What came of an attempt. -/
inductive Outcome where
  | failed
  | matched (tree : Tree) (stop : Nat)
deriving DecidableEq, Repr

structure Run where
  position : Nat := 0
  /-- The attempts under way, the innermost first. -/
  active : List Attempt := []
  known : Std.TreeMap Attempt Outcome comparePair := ∅
  /-- The largest end of a production that matched. -/
  furthest : Nat := 0
  /-- How often an attempt was refused because it was under way already. -/
  guardHits : Nat := 0
  steps : Nat := 0
  /-- Whether the steps ran out. -/
  aborted : Bool := false

namespace Run

def moveTo (run : Run) (position : Nat) : Run := { run with position := position }

/-- Whether one more step than allowed has been taken. -/
def outOfSteps (options : ParseOptions) (run : Run) : Bool :=
  options.maxSteps.any (· < run.steps)

/-- What the gate says to an attempt. -/
inductive Gate where
  /-- The attempt is answered. -/
  | answered (tree : Option Tree) (run : Run)
  /-- The body has to be evaluated. -/
  | opened (run : Run)

/-- Counts an attempt at the cursor and answers it if no body needs to be evaluated. -/
def enter (options : ParseOptions) (id : Nat) (run : Run) : Gate :=
  -- An attempt is counted even if it is refused.
  let run := { run with steps := run.steps + 1 }
  let attempt := (id, run.position)
  if run.aborted then .answered none run
  else if run.outOfSteps options then .answered none { run with aborted := true }
  else if attempt ∈ run.active then .answered none { run with guardHits := run.guardHits + 1 }
  else if options.memoize then
    match run.known[attempt]? with
    | some .failed => .answered none run
    | some (.matched tree stop) => .answered (some tree) (run.moveTo stop)
    | none => .opened run
  else .opened run

/-- Marks the attempt at the cursor as under way. -/
def begin (id : Nat) (run : Run) : Run :=
  { run with active := (id, run.position) :: run.active }

/-- Keeps the outcome of an attempt that began after `hits` refusals, if it may be kept. -/
def keep (options : ParseOptions) (attempt : Attempt) (hits : Nat) (outcome : Outcome)
    (run : Run) : Run :=
  if options.memoize && run.guardHits == hits && !run.aborted then
    { run with known := run.known.insert attempt outcome }
  else run

/--
Ends an attempt that the gate opened in the state `before`. No children at all are a failure; then
the cursor goes back to where it was. Otherwise the children become a branch that carries the name
of the production.
-/
def settle (options : ParseOptions) (id : Nat) (name : String) (before : Run)
    (children : Option (List Tree)) (after : Run) : Option Tree × Run :=
  let attempt := (id, before.position)
  -- The attempt is over before its outcome is judged.
  let after := { after with active := after.active.erase attempt }
  match children with
  | some (first :: others) =>
    let tree := .branch name ⟨first.span.start, after.position⟩ (first :: others)
    let after := { after with furthest := max after.furthest after.position }
    (some tree, after.keep options attempt before.guardHits (.matched tree after.position))
  | _ => (none, (after.moveTo before.position).keep options attempt before.guardHits .failed)

/-- The error to report in a state. -/
def error (tokens : List Token) (run : Run) : ParseError :=
  if run.aborted then .stepLimit run.steps
  else
    match tokens[run.furthest]? with
    | some token => .unexpectedToken run.furthest token
    | none => .unexpectedEnd run.furthest

end Run

end Constituency
