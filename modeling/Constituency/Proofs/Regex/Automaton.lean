import Constituency.Proofs.Regex.Contents

/-!
# Automata on matches

An automaton that reads a text from left to right tells something about it by the state it ends in.
To learn what it tells about all matches of a pattern it is run on the pattern tree, with a test for
the states behind: the condition on the state in front under which all ways through lead to a state
that passes. The rounds of a repetition have to lead back to where they began, so this is a condition
that suffices and not the weakest one.
-/
namespace Constituency.Regex

/-- An automaton that can say where the characters of a whole set lead. -/
structure Automaton (State : Type) where
  /-- The next state; none if the character is refused. -/
  step : State → Char → Option State
  /-- Whether each character of a set leads to a state that passes a test. -/
  stepAll : CharSet → State → (State → Bool) → Bool
  stepAll_sound {s : CharSet} {state : State} {test : State → Bool} {c : Char} :
    stepAll s state test = true → s.contains c = true →
      ∃ next, step state c = some next ∧ test next = true

namespace Automaton

variable {State : Type} (automaton : Automaton State)

/-- The state behind a text. -/
def run (state : State) (text : List Char) : Option State := text.foldlM automaton.step state

/-- Whether each match of a node leads to a state that passes a test. -/
def ensures [DecidableEq State] : Node → State → (State → Bool) → Bool
  | .empty, state, test | .look _, state, test => test state
  | .set s, state, test => automaton.stepAll s state test
  | .seq first second, state, test => ensures first state fun middle => ensures second middle test
  | .alt first second, state, test => ensures first state test && ensures second state test
  | .rep _ _ _ body, state, test => ensures body state (· = state) && test state
  | .group _ body, state, test => ensures body state test

variable {automaton} {state : State} {test : State → Bool}

theorem run_append {front back : List Char} :
    automaton.run state (front ++ back) =
      (automaton.run state front).bind fun middle => automaton.run middle back :=
  List.foldlM_append ..

theorem exists_run_of_ensures [DecidableEq State] {text : Array Char} {node : Node}
    {start stop : Nat} {saved : List (Nat × Nat)}
    (ensured : automaton.ensures node state test = true)
    (matched : node.Matches text start stop saved) :
    ∃ final, automaton.run state (stretch text start stop) = some final ∧ test final = true := by
  induction matched generalizing state test with
  | empty | look =>
    rw [stretch_self]
    exact ⟨state, rfl, ensured⟩
  | set here member =>
    obtain ⟨next, stepped, passed⟩ := automaton.stepAll_sound ensured member
    rw [stretch_succ here]
    exact ⟨next, by simp [run, stepped], passed⟩
  | seq front back ihFront ihBack =>
    obtain ⟨middle, first, later⟩ := ihFront ensured
    obtain ⟨final, second, passed⟩ := ihBack later
    rw [← stretch_append front.start_le_stop back.start_le_stop, run_append, first]
    exact ⟨final, second, passed⟩
  | left _ ih =>
    exact ih (Bool.and_eq_true_iff.mp ensured).1
  | right _ ih =>
    exact ih (Bool.and_eq_true_iff.mp ensured).2
  | stop =>
    rw [stretch_self]
    exact ⟨state, rfl, (Bool.and_eq_true_iff.mp ensured).2⟩
  | round _ first others ihFirst ihOthers =>
    -- The first round leads back to the state in front, and the condition is the same again.
    obtain ⟨middle, round, same⟩ := ihFirst (Bool.and_eq_true_iff.mp ensured).1
    obtain rfl := of_decide_eq_true same
    obtain ⟨final, rest, passed⟩ := ihOthers ensured
    rw [← stretch_append first.start_le_stop others.start_le_stop, run_append, round]
    exact ⟨final, rest, passed⟩
  | group _ ih => exact ih ensured

/-- What an automaton tells about the texts that a pattern for whole texts accepts. -/
theorem exists_run_of_captures [DecidableEq State] {regex : Regex} {text : List Char}
    {captures : Captures} (found : regex.captures? text = some captures)
    (begins : regex.node.beginsText = true) (ends : regex.node.endsText = true)
    (ensured : automaton.ensures regex.node state test = true) :
    ∃ final, automaton.run state text = some final ∧ test final = true := by
  obtain ⟨saved, matched⟩ := exists_matches_whole found begins ends
  have whole : stretch text.toArray 0 text.length = text := stretch_whole
  have told := exists_run_of_ensures ensured matched
  rwa [whole] at told

end Automaton

end Constituency.Regex
