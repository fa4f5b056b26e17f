import Constituency.Proofs.Parser.Derivation
import Constituency.Proofs.Parser.Once
import Constituency.Proofs.Parser.SingleSteps
import Mathlib.Data.Set.Insert

/-!
# Consistent states

Evaluating a body and attempting a production leave the attempts under way as they were, from any
state whatever. A state is consistent if no attempt is held both as a failure and as a success, none
that is held is under way, none is held without a memory, and every success that is held is a tree
of its production that stands where the attempt began. Every single step of every call leads from a
consistent state to a consistent one and only adds to what is held.
-/
namespace Constituency

variable {grammar : Grammar} {tokens : List Token} {options : ParseOptions}

/-! ### Attempts under way -/

section Active

theorem Run.active_iterate {step : Run → Option (List Tree) × Run}
    (restores : ∀ run, (step run).2.active = run.active) (bound : Nat) (run : Run) :
    (Run.iterate step bound run).2.active = run.active := by
  induction bound generalizing run with
  | zero => rfl
  | succ bound ih =>
    have once := restores run
    cases stepped : step run with
    | mk nodes after =>
      rw [stepped] at once
      cases nodes with
      | none => simpa only [Run.iterate, stepped] using once
      | some nodes =>
        by_cases stalled : after.position = run.position
        · simpa only [Run.iterate, stepped, if_pos stalled] using once
        · -- The cursor has moved on, so the iterations behind this one count as well.
          simpa only [Run.iterate, stepped, if_neg stalled] using (ih after).trans once

variable {call : Nat → Run → Option Tree × Run}

mutual

theorem Expr.active_evaluate (restores : ∀ id run, (call id run).2.active = run.active)
    (body : Expr Ref) (run : Run) : (body.evaluate tokens call run).2.active = run.active := by
  cases body with
  | terminal pattern =>
    unfold Expr.evaluate
    split <;> rfl
  | ref target => exact restores target.id run
  | seq items =>
    have all := active_evaluateItems restores items run
    unfold Expr.evaluate
    split
    next equal => rwa [equal] at all
    next equal => rwa [equal] at all
  | opt body => exact active_evaluate restores body run
  | star body =>
    exact Run.active_iterate (active_evaluate restores body) (run.iterationBound tokens) run
  | plus body =>
    exact Run.active_iterate (active_evaluate restores body) (run.iterationBound tokens) run
  | longest alternatives =>
    have tried := active_evaluateAlternatives restores alternatives run.position none run
    unfold Expr.evaluate
    split
    next equal => rwa [equal] at tried
    next equal => rwa [equal] at tried

theorem Expr.active_evaluateItems (restores : ∀ id run, (call id run).2.active = run.active)
    (items : List (Expr Ref)) (run : Run) :
    (Expr.evaluateItems tokens call items run).2.active = run.active := by
  cases items with
  | nil => rfl
  | cons item rest =>
    have head := active_evaluate restores item run
    unfold Expr.evaluateItems
    split
    next equal => rwa [equal] at head
    next equal =>
      rw [equal] at head
      exact (active_evaluateItems restores rest _).trans head

theorem Expr.active_evaluateAlternatives
    (restores : ∀ id run, (call id run).2.active = run.active) (alternatives : List (Expr Ref))
    (start : Nat) (best : Option (List Tree × Nat)) (run : Run) :
    (Expr.evaluateAlternatives tokens call alternatives start best run).2.active = run.active := by
  cases alternatives with
  | nil => rfl
  | cons alternative rest =>
    exact (active_evaluateAlternatives restores rest start _ _).trans
      (active_evaluate restores alternative run)

end

theorem Run.active_settle (id : Nat) (name : String) (before : Run)
    (children : Option (List Tree)) (after : Run) :
    (before.settle options id name children after).2.active =
      after.active.erase (id, before.position) := by
  unfold Run.settle
  dsimp only
  split
  next => exact Run.keep_active
  next => exact Run.keep_active

theorem Run.active_of_answered {id : Nat} {run after : Run} {tree : Option Tree}
    (gate : run.enter options id = .answered tree after) : after.active = run.active := by
  have entered : Run.Enters options id run (.answered tree after) := gate ▸ Run.enters ..
  exact entered.grows.active

/-- Whatever the state, and however an attempt ends, the attempts under way are what they were. -/
theorem active_attempt (room id : Nat) (run : Run) :
    (attempt grammar tokens options room id run).2.active = run.active := by
  induction room generalizing id run with
  | zero =>
    cases gate : run.enter options id with
    | answered tree after =>
      simp only [attempt, gate]
      exact Run.active_of_answered gate
    | opened opened =>
      obtain ⟨rfl, -⟩ := Run.opened_of_enter gate
      simp only [attempt, gate]
      rfl
  | succ room ih =>
    cases gate : run.enter options id with
    | answered tree after =>
      simp only [attempt, gate]
      exact Run.active_of_answered gate
    | opened opened =>
      obtain ⟨rfl, -⟩ := Run.opened_of_enter gate
      cases production : grammar.rules[id]? with
      | none =>
        simp only [attempt, gate, production]
        rfl
      | some rule =>
        simp only [attempt, gate, production]
        -- The attempt has been put in front, and the first one like it is taken away again.
        rw [Run.active_settle, Expr.active_evaluate ih rule.body (run.counted.begin id)]
        exact List.erase_cons_head ..

end Active

/-! ### What is held -/

namespace Run

/-- The attempts that are held as failures. -/
def failures (run : Run) : Set Attempt := {attempt | run.known[attempt]? = some .failed}

/-- The attempts that are held as successes, each with its tree and the end of it. -/
def successes (run : Run) : Set (Attempt × Tree × Nat) :=
  {entry | run.known[entry.1]? = some (.matched entry.2.1 entry.2.2)}

/-- Whether an attempt is held, as a failure or as a success. -/
def Holds (run : Run) (attempt : Attempt) : Prop :=
  attempt ∈ run.failures ∨ ∃ tree stop, (attempt, tree, stop) ∈ run.successes

structure Consistent (grammar : Grammar) (tokens : List Token) (options : ParseOptions)
    (run : Run) : Prop where
  disjoint : ∀ attempt ∈ run.failures, ∀ tree stop, (attempt, tree, stop) ∉ run.successes
  forgets : options.memoize = false → run.failures = ∅ ∧ run.successes = ∅
  apart : ∀ attempt ∈ run.active, ¬ run.Holds attempt
  entry : ∀ id start tree stop, ((id, start), tree, stop) ∈ run.successes →
    ∃ _ : id < grammar.rules.length, tree.label? = some grammar.rules[id].name ∧
      tree.span = ⟨start, stop⟩ ∧ start < stop ∧ stop ≤ tokens.length ∧ stop ≤ run.furthest

/--
How a step may change what is held: not at all, or by one attempt that was not held. So an outcome
that is held is never replaced, neither by one of its own kind nor by one of the other, and two
separate memories for failures and successes would hold just the same.
-/
inductive Writes (before after : Run) : Prop where
  | nothing (failures : after.failures = before.failures)
      (successes : after.successes = before.successes)
  | failure (attempt : Attempt) (fresh : ¬ before.Holds attempt)
      (failures : after.failures = insert attempt before.failures)
      (successes : after.successes = before.successes)
  | success (attempt : Attempt) (tree : Tree) (stop : Nat) (fresh : ¬ before.Holds attempt)
      (failures : after.failures = before.failures)
      (successes : after.successes = insert (attempt, tree, stop) before.successes)

theorem holds_iff {run : Run} {attempt : Attempt} : run.Holds attempt ↔ attempt ∈ run.known := by
  rw [mem_known_iff]
  constructor
  · rintro (failed | ⟨tree, stop, matched⟩)
    · exact ⟨_, failed⟩
    · exact ⟨_, matched⟩
  · rintro ⟨outcome, known⟩
    cases outcome with
    | failed => exact .inl known
    | matched tree stop => exact .inr ⟨tree, stop, known⟩

namespace Writes

variable {before after : Run}

theorem same (known : after.known = before.known) : before.Writes after :=
  .nothing (by simp only [failures, known]) (by simp only [successes, known])

theorem failures_subset (writes : before.Writes after) : before.failures ⊆ after.failures := by
  cases writes with
  | nothing failures => exact failures.ge
  | failure attempt fresh failures => exact failures ▸ Set.subset_insert ..
  | success attempt tree stop fresh failures => exact failures.ge

theorem successes_subset (writes : before.Writes after) :
    before.successes ⊆ after.successes := by
  cases writes with
  | nothing failures successes => exact successes.ge
  | failure attempt fresh failures successes => exact successes.ge
  | success attempt tree stop fresh failures successes => exact successes ▸ Set.subset_insert ..

end Writes

/-- Keeping changes nothing, or it adds the outcome of the attempt to what is known. -/
theorem keep_eq_or (options : ParseOptions) (attempt : Attempt) (hits : Nat) (outcome : Outcome)
    (run : Run) : run.keep options attempt hits outcome = run ∨
      ∀ key, (run.keep options attempt hits outcome).known[key]? =
        if key = attempt then some outcome else run.known[key]? := by
  by_cases may : options.memoize && run.guardHits == hits && !run.aborted
  · right
    intro key
    by_cases same : key = attempt
    · subst same
      simp [keep, may]
    · rw [getElem?_known_keep_of_ne same, if_neg same]
  · left
    simp only [keep, may, Bool.false_eq_true, if_false]

theorem keep_of_plain {attempt : Attempt} {hits : Nat} {outcome : Outcome} {run : Run}
    (plain : options.memoize = false) : run.keep options attempt hits outcome = run := by
  simp [keep, plain]

/-- Keeping the outcome of an attempt that is not known yet writes nothing else. -/
theorem writes_keep {run : Run} {attempt : Attempt} (fresh : attempt ∉ run.known)
    (options : ParseOptions) (hits : Nat) (outcome : Outcome) :
    run.Writes (run.keep options attempt hits outcome) := by
  rcases keep_eq_or options attempt hits outcome run with same | added
  · exact .same (congrArg known same)
  have unheld : ¬ run.Holds attempt := mt holds_iff.mp fresh
  have unknown : run.known[attempt]? = none := Std.TreeMap.getElem?_eq_none fresh
  cases outcome with
  | failed =>
    refine .failure attempt unheld ?_ ?_
    · ext key
      by_cases same : key = attempt <;> simp [failures, added, same]
    · ext ⟨key, tree, stop⟩
      by_cases same : key = attempt <;> simp [successes, added, same, unknown]
  | matched tree stop =>
    refine .success attempt tree stop unheld ?_ ?_
    · ext key
      by_cases same : key = attempt <;> simp [failures, added, same, unknown]
    · ext ⟨key, other, last⟩
      by_cases same : key = attempt
      · simp [successes, added, same, unknown, eq_comm]
      · simp [successes, added, same]

end Run

/-! ### Steady states -/

/-- What makes a state consistent, in the form in which it is kept from step to step. -/
structure Run.Steady (grammar : Grammar) (tokens : List Token) (options : ParseOptions)
    (run : Run) : Prop where
  placed : run.Placed grammar tokens
  derived : run.Derived grammar
  apart : run.Apart
  forgets : options.memoize = false → ∀ attempt, attempt ∉ run.known

namespace Run.Steady

variable {run : Run}

theorem fresh : ({} : Run).Steady grammar tokens options where
  placed := Run.atRest_fresh.placed
  derived := Run.derived_fresh
  apart := by simp [Run.Apart]
  forgets := by simp

theorem consistent (steady : run.Steady grammar tokens options) :
    run.Consistent grammar tokens options where
  disjoint := by
    intro attempt failed tree stop matched
    have known : some Outcome.failed = some (.matched tree stop) := failed.symm.trans matched
    simp at known
  forgets := by
    intro plain
    have unheld (attempt : Attempt) : ¬ run.Holds attempt :=
      mt Run.holds_iff.mp (steady.forgets plain attempt)
    constructor
    · exact Set.eq_empty_of_forall_notMem fun attempt failed => unheld attempt (.inl failed)
    · exact Set.eq_empty_of_forall_notMem fun entry matched =>
        unheld entry.1 (.inr ⟨_, _, matched⟩)
  apart := fun attempt active held => steady.apart attempt active (Run.holds_iff.mp held)
  entry := by
    intro id start tree stop matched
    have known : run.known[(id, start)]? = some (.matched tree stop) := matched
    obtain ⟨covers, reached⟩ := steady.placed.known_covers _ _ known
    have rooted := steady.derived _ _ _ known
    obtain ⟨rule, span, children, production, -⟩ := rooted.root
    obtain ⟨below, named⟩ := List.getElem?_eq_some_iff.mp production
    have label : tree.label? = some grammar.rules[id].name :=
      rooted.label_eq (by rw [production, ← named]; rfl)
    exact ⟨below, label, covers.span_eq, covers.lt.1, covers.lt.2, reached⟩

theorem moveTo (steady : run.Steady grammar tokens options) {position : Nat}
    (inside : position ≤ tokens.length) : (run.moveTo position).Steady grammar tokens options :=
  { steady with placed := steady.placed.moveTo inside }

theorem counted (steady : run.Steady grammar tokens options) :
    run.counted.Steady grammar tokens options :=
  { steady with placed := steady.placed.counted }

theorem begin {id : Nat} {rule : Rule Ref} (steady : run.Steady grammar tokens options)
    (gate : run.enter options id = .opened run.counted)
    (production : grammar.rules[id]? = some rule) :
    (run.counted.begin id).Steady grammar tokens options := by
  obtain ⟨-, -, free, unknown⟩ := Run.opened_of_enter gate
  refine { steady with placed := steady.placed.counted.begin production free, apart := ?_ }
  -- With a memory the gate has looked the attempt up, and without one nothing is known at all.
  cases memory : options.memoize with
  | true => exact steady.apart.begin (unknown memory)
  | false => exact fun attempt _ => steady.forgets memory attempt

theorem finish (steady : run.Steady grammar tokens options) (attempt : Attempt) :
    (run.finish attempt).Steady grammar tokens options :=
  { steady with
    placed := steady.placed.finish attempt
    apart := fun other member => steady.apart other (List.mem_of_mem_erase member) }

theorem reach (steady : run.Steady grammar tokens options) :
    run.reach.Steady grammar tokens options :=
  { steady with placed := steady.placed.reach }

end Run.Steady

/-! ### Courses -/

/-- Without a memory nothing is learned. -/
theorem Run.lasting_known (plain : options.memoize = false) :
    Run.Lasting options fun before after => after.known = before.known where
  refl := fun _ => rfl
  trans := fun first second => second.trans first
  moveTo := fun same _ => same
  reach := fun same => same
  keep := fun same _ _ _ => by rw [Run.keep_of_plain plain, same]
  answered := Run.Enters.known_eq
  finished := fun _ same => same

theorem Course.known_eq {task : Task} {run after : Run} {answer : task.Answer}
    {events : List Event} (course : Course grammar tokens options task run answer after events)
    (plain : options.memoize = false) : after.known = run.known :=
  course.lasts (Run.lasting_known plain)

theorem Course.steady {task : Task} {run after : Run} {answer : task.Answer} {events : List Event}
    (course : Course grammar tokens options task run answer after events)
    (steady : run.Steady grammar tokens options) (resolved : task.Resolved grammar.rules) :
    after.Steady grammar tokens options where
  placed := (course.placed steady.placed).1
  derived := (course.derives resolved steady.derived).1
  apart := by
    cases memory : options.memoize with
    | true => exact (course.learns memory steady.apart).apart steady.apart course.grows.active
    | false =>
      intro attempt active
      rw [course.known_eq memory]
      exact steady.forgets memory attempt
  forgets := by
    intro plain
    rw [course.known_eq plain]
    exact steady.forgets plain

/-- A task leads to tasks that begin in steady states. -/
theorem Leads.steady {task part : Task} {run start : Run}
    (leads : Leads grammar tokens options task run part start)
    (steady : run.Steady grammar tokens options) (resolved : task.Resolved grammar.rules) :
    start.Steady grammar tokens options ∧ part.Resolved grammar.rules := by
  cases leads with
  | inside gate production =>
    exact ⟨steady.begin gate production, grammar.resolved _ (List.mem_of_getElem? production)⟩
  | ref => exact ⟨steady, trivial⟩
  | seq => exact ⟨steady, resolved.items⟩
  | opt => exact ⟨steady, resolved⟩
  | star => exact ⟨steady, resolved⟩
  | plus => exact ⟨steady, resolved⟩
  | longest => exact ⟨steady, resolved.items⟩
  | item => exact ⟨steady, (List.forall_mem_cons.mp resolved).1⟩
  | moreItems head =>
    obtain ⟨itemResolved, restResolved⟩ := List.forall_mem_cons.mp resolved
    exact ⟨head.steady steady itemResolved, restResolved⟩
  | alternative => exact ⟨steady, (List.forall_mem_cons.mp resolved).1⟩
  | moreAlternatives head =>
    obtain ⟨headResolved, restResolved⟩ := List.forall_mem_cons.mp resolved
    exact ⟨(head.steady steady headResolved).moveTo steady.placed.position_le, restResolved⟩
  | iteration => exact ⟨steady, resolved⟩
  | moreIterations first moved => exact ⟨first.steady steady resolved, resolved⟩

/-! ### Single steps -/

namespace Evaluates

variable {id : Nat} {run inner : Run} {rule : Rule Ref} {children : Option (List Tree)}

theorem steady (evaluates : Evaluates grammar tokens options id run rule children inner)
    (steady : run.Steady grammar tokens options) : inner.Steady grammar tokens options := by
  obtain ⟨gate, production, events, inside⟩ := evaluates
  exact inside.steady (steady.begin gate production)
    (grammar.resolved _ (List.mem_of_getElem? production))

/-- An attempt is not known as long as it is under way. -/
theorem fresh (evaluates : Evaluates grammar tokens options id run rule children inner)
    (steady : run.Steady grammar tokens options) : (id, run.position) ∉ inner.known := by
  -- Behind the body it is under way still, and the body has left what is under way apart.
  obtain ⟨events, inside⟩ := evaluates.inside
  have active : inner.active = (id, run.position) :: run.active := inside.grows.active
  refine (evaluates.steady steady).apart _ ?_
  rw [active]
  exact List.mem_cons_self ..

end Evaluates

/-- A single step of a task leads from a steady state to a steady one. -/
theorem SingleStep.steady {task : Task} {run before after : Run}
    (step : SingleStep grammar tokens options task run before after)
    (steady : run.Steady grammar tokens options) (resolved : task.Resolved grammar.rules) :
    before.Steady grammar tokens options ∧ after.Steady grammar tokens options ∧
      before.Writes after := by
  -- By the depth at which the step is taken; only an attempt's own last step writes anything.
  induction step with
  | inside leads step ih =>
    obtain ⟨startSteady, partResolved⟩ := leads.steady steady resolved
    exact ih startSteady partResolved
  | counts => exact ⟨steady, steady.counted, .same rfl⟩
  | answers gate =>
    have entered : Run.Enters options _ _ (.answered _ _) := gate ▸ Run.enters ..
    exact ⟨steady.counted, (Course.answered gate).steady steady trivial, .same entered.known_eq⟩
  | begins gate production => exact ⟨steady.counted, steady.begin gate production, .same rfl⟩
  | finishes evaluates =>
    have inner := evaluates.steady steady
    exact ⟨inner, inner.finish _, .same rfl⟩
  | @resets id run inner rule children evaluates nothing =>
    have ended := (evaluates.steady steady).finish (id, run.position)
    exact ⟨ended, ended.moveTo steady.placed.position_le, .same rfl⟩
  | @fails id run inner rule children evaluates nothing =>
    have ended := (evaluates.steady steady).finish (id, run.position)
    obtain ⟨events, inside⟩ := evaluates.inside
    have failed := Course.failed evaluates.gate evaluates.production inside nothing
    refine ⟨ended.moveTo steady.placed.position_le, failed.steady steady trivial, ?_⟩
    apply Run.writes_keep
    exact evaluates.fresh steady
  | @reaches id run inner rule first others evaluates =>
    have ended := (evaluates.steady steady).finish (id, run.position)
    exact ⟨ended, ended.reach, .same rfl⟩
  | @succeeds id run inner rule first others evaluates =>
    have ended := (evaluates.steady steady).finish (id, run.position)
    obtain ⟨events, inside⟩ := evaluates.inside
    have matched := Course.matched evaluates.gate evaluates.production inside
    refine ⟨ended.reach, matched.steady steady trivial, ?_⟩
    apply Run.writes_keep
    exact evaluates.fresh steady
  | consumes there => exact ⟨steady, (Course.token there).steady steady resolved, .same rfl⟩
  | returns all =>
    have later := all.steady steady resolved.items
    exact ⟨later, later.moveTo steady.placed.position_le, .same rfl⟩
  | chooses tried =>
    exact ⟨tried.steady steady resolved.items, (Course.longest tried).steady steady resolved,
      .same rfl⟩
  | restarts head =>
    have later := head.steady steady (List.forall_mem_cons.mp resolved).1
    exact ⟨later, later.moveTo steady.placed.position_le, .same rfl⟩

/-! ### Calls -/

theorem Parser.Replies.steady {run after : Run} {call : Call} {tree : Option Tree}
    {events : List Event}
    (replies : Replies ⟨grammar, tokens, options, run⟩ call tree after events)
    (steady : run.Steady grammar tokens options) : after.Steady grammar tokens options := by
  cases replies with
  | attempted target course => exact course.steady steady trivial
  | unknown missing => exact steady

/--
Between calls nothing is under way and the state is consistent. A call is a chain of single steps;
each of them leads from a consistent state to a consistent one, and only adds to the failures and
the successes that are held. From any state whatever, attempting a production and evaluating a body
leave the attempts under way as they were.
-/
theorem Parser.calls_consistent (grammar : Grammar) (tokens : List Token) (options : ParseOptions)
    (calls : List Call) (call : Call) :
    let parser := callAll { grammar := grammar, tokens := tokens, options := options } calls
    (parser.run.active = [] ∧ parser.run.Consistent grammar tokens options) ∧
    (∀ id, call.target? grammar = some id →
      Chain grammar tokens options (.attempt id) parser.run parser.run (parser.call call).2.run ∧
      ∀ before after, SingleStep grammar tokens options (.attempt id) parser.run before after →
        before.Consistent grammar tokens options ∧ after.Consistent grammar tokens options ∧
        before.failures ⊆ after.failures ∧ before.successes ⊆ after.successes ∧
        before.Writes after) ∧
    (∀ room id run,
      (Constituency.attempt grammar tokens options room id run).2.active = run.active) ∧
    (∀ room (body : Expr Ref) run,
      (body.evaluate tokens (Constituency.attempt grammar tokens options room) run).2.active =
        run.active) := by
  obtain ⟨run, equal, rest, steady⟩ := exists_callAll_eq options
    (P := fun run => run.Steady grammar tokens options)
    (fun _ _ _ _ _ _ steady replies => replies.steady steady) calls Run.atRest_fresh .fresh
  rw [equal]
  refine ⟨⟨rest.idle, steady.consistent⟩, ?_, active_attempt,
    fun room => Expr.active_evaluate (active_attempt room)⟩
  intro id target
  obtain ⟨tree, after, events, course⟩ :=
    ends_attempt _ id run (Call.lt_of_target? target) rest.fits
  have replies : Replies ⟨grammar, tokens, options, run⟩ call tree after events :=
    .attempted target course
  refine ⟨?_, ?_⟩
  · rw [replies.call_eq rest]
    exact course.chain
  · intro before after step
    obtain ⟨first, second, writes⟩ := step.steady steady trivial
    exact ⟨first.consistent, second.consistent, writes.failures_subset, writes.successes_subset,
      writes⟩

/-- A parser that gives up after the first number holds it as a success, and is consistent. -/
theorem Parser.calls_consistent_briefSum :
    ((1, 0), .branch "Number" ⟨0, 1⟩ [.leaf ⟨"1", "NUM"⟩ ⟨0, 1⟩], 1) ∈
        (briefSum.call .start).2.run.successes ∧
      (briefSum.call .start).2.run.aborted = true ∧
      Chain sums briefSum.tokens briefSum.options (.attempt 0) {} {}
        (briefSum.call .start).2.run ∧
      (briefSum.call .start).2.run.Consistent sums briefSum.tokens briefSum.options := by
  have held : (briefSum.call .start).2.run.known[(1, 0)]? =
      some (.matched (.branch "Number" ⟨0, 1⟩ [.leaf ⟨"1", "NUM"⟩ ⟨0, 1⟩]) 1) := by
    decide +kernel
  have chain := (calls_consistent sums briefSum.tokens briefSum.options [] .start).2.1 0 rfl
  have later := (calls_consistent sums briefSum.tokens briefSum.options [.start] .start).1
  exact ⟨held, by decide +kernel, chain.1, later.2⟩

end Constituency
