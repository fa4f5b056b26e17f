import Constituency.Proofs.Parser.Execution

/-!
# Calls of a parser

A parser that is called from outside has nothing under way. What every call keeps holds after any
number of calls, so properties of a parser in use are proved for one call at a time.
-/
namespace Constituency

variable {grammar : Grammar} {tokens : List Token} {options : ParseOptions}

/-- Between calls nothing is under way, and the cursor has not passed the furthest end. -/
structure Run.AtRest (grammar : Grammar) (tokens : List Token) (run : Run) : Prop where
  placed : run.Placed grammar tokens
  idle : run.active = []
  position_le : run.position ≤ run.furthest

theorem Run.atRest_fresh : ({} : Run).AtRest grammar tokens where
  placed := {
    position_le := Nat.zero_le _
    furthest_le := Nat.zero_le _
    active_nodup := List.nodup_nil
    active_valid := by simp
    known_covers := by simp }
  idle := rfl
  position_le := Nat.le_refl _

theorem Run.AtRest.fits {run : Run} (rest : run.AtRest grammar tokens) :
    run.Fits grammar tokens (attemptRoom grammar tokens) :=
  ⟨rest.placed, Nat.le_add_right ..⟩

/-- A production that has matched has been noted in the furthest end. -/
theorem Course.position_le_furthest {id : Nat} {run after : Run} {tree : Tree}
    {events : List Event}
    (course : Course grammar tokens options (.attempt id) run (some tree) after events)
    (placed : run.Placed grammar tokens) : after.position ≤ after.furthest := by
  cases course with
  | answered gate =>
    have entered := Run.enters options id run
    rw [gate] at entered
    cases entered with
    | matchedBefore live within free memoize known => exact (placed.known_covers _ _ known).2
  | matched gate production inside =>
    rw [Run.keep_position, Run.keep_furthest]
    exact Nat.le_max_right ..

theorem Course.atRest {id : Nat} {run after : Run} {tree : Option Tree} {events : List Event}
    (course : Course grammar tokens options (.attempt id) run tree after events)
    (rest : run.AtRest grammar tokens) : after.AtRest grammar tokens where
  placed := (course.placed rest.placed).1
  idle := course.grows.active.trans rest.idle
  position_le := by
    cases tree with
    | none =>
      have back : after.position = run.position := (course.placed rest.placed).2
      rw [back]
      exact Nat.le_trans rest.position_le course.grows.furthest
    | some tree => exact course.position_le_furthest rest.placed

/-! ### Targets -/

section Targets

variable {parser : Parser} {call : Call} {id : Nat}

theorem Call.lt_of_target? (target : call.target? grammar = some id) :
    id < grammar.rules.length := by
  cases call with
  | start =>
    obtain rfl := Option.some.inj target
    exact grammar.start_lt
  | rule name => exact Grammar.lt_of_ruleId? target

theorem Parser.call_of_target? (target : call.target? parser.grammar = some id) :
    parser.call call = parser.callId id := by
  cases call with
  | start =>
    obtain rfl := Option.some.inj target
    rfl
  | rule name =>
    have found : parser.grammar.ruleId? name = some id := target
    simp only [Parser.call, callRule, found]

theorem Parser.call_of_no_target? (missing : call.target? parser.grammar = none) :
    parser.call call = (none, parser) := by
  cases call with
  | start => contradiction
  | rule name =>
    have unknown : parser.grammar.ruleId? name = none := missing
    simp only [Parser.call, callRule, unknown]

end Targets

/-! ### Replies -/

section Replies

variable {run after : Run} {call : Call} {tree : Option Tree} {events : List Event}

theorem Parser.Replies.atRest
    (replies : Replies ⟨grammar, tokens, options, run⟩ call tree after events)
    (rest : run.AtRest grammar tokens) : after.AtRest grammar tokens := by
  cases replies with
  | attempted target course => exact course.atRest rest
  | unknown missing => exact rest

theorem Parser.exists_replies (options : ParseOptions) (call : Call)
    (rest : run.AtRest grammar tokens) :
    ∃ tree after events, Replies ⟨grammar, tokens, options, run⟩ call tree after events := by
  cases target : call.target? grammar with
  | none => exact ⟨_, _, _, .unknown target⟩
  | some id =>
    obtain ⟨tree, after, events, course⟩ :=
      ends_attempt _ _ run (Call.lt_of_target? target) rest.fits
    exact ⟨tree, after, events, .attempted target course⟩

theorem Parser.Replies.call_eq
    (replies : Replies ⟨grammar, tokens, options, run⟩ call tree after events)
    (rest : run.AtRest grammar tokens) :
    Parser.call ⟨grammar, tokens, options, run⟩ call =
      (tree, ⟨grammar, tokens, options, after⟩) := by
  cases replies with
  | attempted target course =>
    rw [call_of_target? target]
    simp only [callId, course.performs rest.fits]
  | unknown missing => exact call_of_no_target? missing

/-- Behind the first of some calls, the others go on from the state that it leaves. -/
theorem Parser.Replies.callAll_cons
    (replies : Replies ⟨grammar, tokens, options, run⟩ call tree after events)
    (rest : run.AtRest grammar tokens) (calls : List Call) :
    callAll ⟨grammar, tokens, options, run⟩ (call :: calls) =
      callAll ⟨grammar, tokens, options, after⟩ calls := by
  simp only [callAll, List.foldl_cons, replies.call_eq rest]

/-- A call has one reply. -/
theorem Parser.Replies.unique {other : Option Tree} {last : Run} {others : List Event}
    (replies : Replies ⟨grammar, tokens, options, run⟩ call tree after events)
    (again : Replies ⟨grammar, tokens, options, run⟩ call other last others)
    (rest : run.AtRest grammar tokens) : other = tree ∧ last = after := by
  have equal := (again.call_eq rest).symm.trans (replies.call_eq rest)
  simpa using equal

/-- What holds of a fresh state and is kept by every call holds after any calls. -/
theorem Parser.exists_callAll_eq (options : ParseOptions) {P : Run → Prop}
    (step : ∀ (run : Run) (call : Call) (tree : Option Tree) (after : Run) (events : List Event),
      run.AtRest grammar tokens → P run →
      Replies ⟨grammar, tokens, options, run⟩ call tree after events → P after)
    (calls : List Call) (rest : run.AtRest grammar tokens) (initial : P run) :
    ∃ after, callAll ⟨grammar, tokens, options, run⟩ calls = ⟨grammar, tokens, options, after⟩ ∧
      after.AtRest grammar tokens ∧ P after := by
  induction calls generalizing run with
  | nil => exact ⟨run, rfl, rest, initial⟩
  | cons call others ih =>
    obtain ⟨tree, after, events, replies⟩ := exists_replies options call rest
    have kept := step run call tree after events rest initial replies
    obtain ⟨last, equal, lastRest, holds⟩ := ih (replies.atRest rest) kept
    exact ⟨last, (replies.callAll_cons rest others).trans equal, lastRest, holds⟩

end Replies

/-! ### Histories -/

section History

variable {run after : Run} {calls : List Call} {events : List Event}

theorem Parser.exists_history (options : ParseOptions) (calls : List Call)
    (rest : run.AtRest grammar tokens) :
    ∃ after events, History grammar tokens options run calls after events := by
  induction calls generalizing run with
  | nil => exact ⟨run, [], .nil⟩
  | cons call others ih =>
    obtain ⟨tree, between, front, replies⟩ := exists_replies options call rest
    obtain ⟨after, back, later⟩ := ih (replies.atRest rest)
    exact ⟨after, front ++ back, .cons replies later⟩

theorem Parser.History.callAll_eq (history : History grammar tokens options run calls after events)
    (rest : run.AtRest grammar tokens) :
    callAll ⟨grammar, tokens, options, run⟩ calls = ⟨grammar, tokens, options, after⟩ := by
  induction history with
  | nil => rfl
  | cons replies later ih =>
    exact (replies.callAll_cons rest _).trans (ih (replies.atRest rest))

end History

/-- A parser in use is at rest between calls. -/
theorem Parser.exists_callAll_fresh_eq (grammar : Grammar) (tokens : List Token)
    (options : ParseOptions) (calls : List Call) :
    ∃ run, callAll { grammar := grammar, tokens := tokens, options := options } calls =
      ⟨grammar, tokens, options, run⟩ ∧ run.AtRest grammar tokens := by
  obtain ⟨run, equal, rest, -⟩ := exists_callAll_eq options (P := fun _ => True)
    (fun _ _ _ _ _ _ _ _ => trivial) calls (Run.atRest_fresh : Run.AtRest grammar tokens {})
    trivial
  exact ⟨run, equal, rest⟩

end Constituency
