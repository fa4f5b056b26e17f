/-!
# How many tokens a pattern spans

A rule is tried on windows of one size, which is read off its pattern: semicolons separate tokens
unless they are escaped or stand in a class. The scan keeps a count for each open group. The
alternatives of a group have to count alike; if two differ, the pattern has no span.
-/
namespace Constituency.PatternSpan

/-- The separators counted in a group. -/
structure Count where
  /-- The number in each finished alternative, if there is one. -/
  finished : Option Nat := none
  /-- The number in the alternative that is being scanned. -/
  current : Nat := 0
deriving DecidableEq, Repr

/-- The count of a group whose last alternative ends here. -/
def Count.close (count : Count) : Option Nat :=
  match count.finished with
  | some n => if n = count.current then some n else none
  | none => some count.current

structure State where
  /-- The innermost open group. -/
  inner : Count := {}
  /-- The groups around it, the nearest one first. -/
  outer : List Count := []
  inClass : Bool := false
  escaped : Bool := false
deriving DecidableEq, Repr

def step (state : State) (c : Char) : Option State :=
  if state.escaped then some { state with escaped := false }
  else if c = '\\' then some { state with escaped := true }
  else if state.inClass then some { state with inClass := c != ']' }
  else if c = '[' then some { state with inClass := true }
  else if c = '(' then some { state with inner := {}, outer := state.inner :: state.outer }
  else if c = ')' then
    match state.outer with
    -- It closes nothing here, and counts as an ordinary character.
    | [] => some state
    | around :: others => do
      let inside ← state.inner.close
      return { state with
        inner := { around with current := around.current + inside }
        outer := others }
  else if c = '|' then do
    let finished ← state.inner.close
    return { state with inner := { finished := some finished, current := 0 } }
  else if c = ';' then
    some { state with inner := { state.inner with current := state.inner.current + 1 } }
  else some state

end PatternSpan

open PatternSpan in
/-- The number of tokens that a pattern spans: one more than its separators. -/
def patternSpan (pattern : List Char) : Option Nat := do
  let final ← pattern.foldlM step {}
  return (← final.inner.close) + 1

example : patternSpan "([^:;]+):VA;게:EC".toList = some 2 := by decide +kernel

example : patternSpan "x:X;(a:A;b:B|c:C;(d|e):D)".toList = some 3 := by decide +kernel

example : patternSpan "(a:A;b:B|c:C)".toList = none := by decide +kernel

end Constituency
