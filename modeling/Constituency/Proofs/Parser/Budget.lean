import Constituency.Proofs.Parser.Calls

/-!
# The budget of steps

A budget cuts a run short and changes nothing else. Every attempt is a step, a refused one as well,
and a run is given up exactly when it has taken one step more than it may. Up to there the gate asks
the budget only for leave, so a course that stays within two budgets is the same under both. A run
that is given up refuses every attempt that follows.
-/
namespace Constituency

variable {grammar : Grammar} {tokens : List Token} {options other : ParseOptions}

/-! ### Counting -/

namespace Run

theorem outOfSteps_iff {run : Run} :
    run.outOfSteps options = true ↔ ∃ limit, options.maxSteps = some limit ∧ limit < run.steps := by
  cases bound : options.maxSteps with
  | none => simp [outOfSteps, bound]
  | some limit => simp [outOfSteps, bound]

theorem within_of_le {before after : Run} (fewer : before.steps ≤ after.steps)
    (within : after.outOfSteps options = false) : before.outOfSteps options = false := by
  apply Bool.eq_false_iff.mpr
  intro gone
  obtain ⟨limit, bound, less⟩ := outOfSteps_iff.mp gone
  have later : after.outOfSteps options = true :=
    outOfSteps_iff.mpr ⟨limit, bound, Nat.lt_of_lt_of_le less fewer⟩
  rw [within] at later
  contradiction

/-- Whether a run is given up exactly if it has taken more steps than it may. -/
def Accounted (options : ParseOptions) (run : Run) : Prop := run.aborted = run.outOfSteps options

theorem accounted_fresh : ({} : Run).Accounted options := by
  apply Eq.symm
  apply Bool.eq_false_iff.mpr
  intro gone
  obtain ⟨limit, -, less⟩ := outOfSteps_iff.mp gone
  exact absurd less (Nat.not_lt_zero limit)

/-- Steps are only added, and whether they have run out is never forgotten. -/
structure Spends (options : ParseOptions) (before after : Run) : Prop where
  steps : before.steps ≤ after.steps
  accounted : before.Accounted options → after.Accounted options

namespace Spends

variable {run before between after last : Run} {id : Nat}

theorem refl (run : Run) : run.Spends options run := ⟨Nat.le_refl _, fun accounted => accounted⟩

theorem trans (first : before.Spends options between) (second : between.Spends options after) :
    before.Spends options after where
  steps := Nat.le_trans first.steps second.steps
  accounted := fun accounted => second.accounted (first.accounted accounted)

/-- What happens between two attempts costs nothing. -/
theorem free (spent : before.Spends options after) (steps : last.steps = after.steps)
    (aborted : last.aborted = after.aborted) : before.Spends options last where
  steps := by
    rw [steps]
    exact spent.steps
  accounted := by
    intro accounted
    have equal : after.aborted = after.outOfSteps options := spent.accounted accounted
    have same : last.outOfSteps options = after.outOfSteps options := by
      simp only [outOfSteps, steps]
    exact aborted.trans (equal.trans same.symm)

theorem moveTo (spent : before.Spends options after) (position : Nat) :
    before.Spends options (after.moveTo position) := spent.free rfl rfl

theorem opened (gate : run.enter options id = .opened run.counted) :
    run.Spends options (run.counted.begin id) := by
  have entered := enters options id run
  rw [gate] at entered
  cases entered with
  | opened live within free unknown => exact ⟨Nat.le_succ _, fun _ => live.trans within.symm⟩

end Spends

theorem Enters.steps_eq {id : Nat} {run after : Run} {tree : Option Tree}
    (gate : Enters options id run (.answered tree after)) : after.steps = run.counted.steps := by
  cases gate <;> rfl

theorem Enters.spends {id : Nat} {run after : Run} {tree : Option Tree}
    (gate : Enters options id run (.answered tree after)) : run.Spends options after where
  steps := by
    rw [gate.steps_eq]
    exact Nat.le_succ _
  accounted := by
    intro accounted
    cases gate with
    | givenUp gone =>
      -- The steps have run out before, so they are out after one more.
      have out : run.outOfSteps options = true := accounted.symm.trans gone
      obtain ⟨limit, bound, less⟩ := outOfSteps_iff.mp out
      have later : run.counted.outOfSteps options = true :=
        outOfSteps_iff.mpr ⟨limit, bound, Nat.lt_succ_of_lt less⟩
      exact gone.trans later.symm
    | exhausted live gone => exact gone.symm
    | refused live within active => exact live.trans within.symm
    | failedBefore live within free memoize known => exact live.trans within.symm
    | matchedBefore live within free memoize known => exact live.trans within.symm

end Run

theorem Run.Spends.lasting : Run.Lasting options (Run.Spends options) where
  refl := .refl
  trans := .trans
  moveTo := .moveTo
  reach := fun spent => spent.free rfl rfl
  keep := fun spent _ _ _ => spent.free Run.keep_steps Run.keep_aborted
  answered := Run.Enters.spends
  finished := fun gate spent => ((Run.Spends.opened gate).trans spent).free rfl rfl

theorem Course.spends {task : Task} {run after : Run} {answer : task.Answer} {events : List Event}
    (course : Course grammar tokens options task run answer after events) :
    run.Spends options after := course.lasts Run.Spends.lasting

/-! ### Two budgets -/

section TwoBudgets

variable {run : Run}

/-- Within both budgets the gate says the same. -/
theorem Run.enter_congr (id : Nat) (memoize : options.memoize = other.memoize)
    (within : run.counted.outOfSteps options = false)
    (withinOther : run.counted.outOfSteps other = false) :
    run.enter options id = run.enter other id := by
  simp only [counted] at within withinOther
  simp only [enter, within, withinOther, memoize]

theorem Run.keep_congr {attempt : Attempt} {hits : Nat} {outcome : Outcome}
    (memoize : options.memoize = other.memoize) :
    run.keep options attempt hits outcome = run.keep other attempt hits outcome := by
  simp only [keep, memoize]

end TwoBudgets

/-- A gate that opens under one budget opens under the other one, if the body fits in both. -/
theorem Course.gate_under {id : Nat} {body : Expr Ref} {run inner : Run}
    {children : Option (List Tree)} {events : List Event}
    (inside : Course grammar tokens options (.body body) (run.counted.begin id) children inner
      events)
    (memoize : options.memoize = other.memoize) (within : inner.outOfSteps options = false)
    (withinOther : inner.outOfSteps other = false)
    (gate : run.enter options id = .opened run.counted) :
    run.enter other id = .opened run.counted := by
  -- The attempt was counted before its body, so at the gate no more steps had been taken.
  have fewer : run.counted.steps ≤ inner.steps := inside.spends.steps
  have same := Run.enter_congr id memoize (Run.within_of_le fewer within)
    (Run.within_of_le fewer withinOther)
  exact same ▸ gate

/-- A course that stays within two budgets is the same under both. -/
theorem Course.under {task : Task} {run after : Run} {answer : task.Answer} {events : List Event}
    (course : Course grammar tokens options task run answer after events)
    (memoize : options.memoize = other.memoize) (within : after.outOfSteps options = false)
    (withinOther : after.outOfSteps other = false) :
    Course grammar tokens other task run answer after events := by
  induction course with
  | @answered id run after tree gate =>
    have steps : run.counted.steps = after.steps := (gate ▸ Run.enters options id run).steps_eq.symm
    have same := Run.enter_congr id memoize (Run.within_of_le (Nat.le_of_eq steps) within)
      (Run.within_of_le (Nat.le_of_eq steps) withinOther)
    exact .answered (same ▸ gate)
  | @failed id run inner rule children events gate production inside nothing ih =>
    have innerWithin := Run.within_of_le (Nat.le_of_eq Run.keep_steps.symm) within
    have innerOther := Run.within_of_le (Nat.le_of_eq Run.keep_steps.symm) withinOther
    have opened := inside.gate_under memoize innerWithin innerOther gate
    rw [Run.keep_congr memoize]
    exact .failed opened production (ih innerWithin innerOther) nothing
  | @matched id run inner rule first others events gate production inside ih =>
    have innerWithin := Run.within_of_le (Nat.le_of_eq Run.keep_steps.symm) within
    have innerOther := Run.within_of_le (Nat.le_of_eq Run.keep_steps.symm) withinOther
    have opened := inside.gate_under memoize innerWithin innerOther gate
    rw [Run.keep_congr memoize]
    exact .matched opened production (ih innerWithin innerOther)
  | token there => exact .token there
  | noToken missing => exact .noToken missing
  | ref call ih => exact .ref (ih within withinOther)
  | seq all ih => exact .seq (ih within withinOther)
  | brokenSeq all ih => exact .brokenSeq (ih within withinOther)
  | opt once ih => exact .opt (ih within withinOther)
  | star loop ih => exact .star (ih within withinOther)
  | plus loop ih => exact .plus (ih within withinOther)
  | longest tried ih => exact .longest (ih within withinOther)
  | noLongest tried ih => exact .noLongest (ih within withinOther)
  | noItems => exact .noItems
  | brokenItems head ih => exact .brokenItems (ih within withinOther)
  | items head tail first second =>
    -- What is not spent in the end was not spent in between either.
    have fewer := tail.spends.steps
    have front := first (Run.within_of_le fewer within) (Run.within_of_le fewer withinOther)
    exact .items front (second within withinOther)
  | noAlternatives => exact .noAlternatives
  | alternatives head tail first second =>
    have fewer := tail.spends.steps
    have front := first (Run.within_of_le fewer within) (Run.within_of_le fewer withinOther)
    exact .alternatives front (second within withinOther)
  | ends last ih => exact .ends (ih within withinOther)
  | stalls last stalled ih => exact .stalls (ih within withinOther) stalled
  | continues first moved loop one more =>
    have fewer := loop.spends.steps
    have front := one (Run.within_of_le fewer within) (Run.within_of_le fewer withinOther)
    exact .continues front moved (more within withinOther)

/-! ### Calls -/

namespace ParseOptions

def unlimited (memoize : Bool) : ParseOptions := { memoize, maxSteps := none }

def limited (memoize : Bool) (limit : Nat) : ParseOptions := { memoize, maxSteps := some limit }

theorem outOfSteps_unlimited {memoize : Bool} {run : Run} :
    run.outOfSteps (unlimited memoize) = false := rfl

theorem outOfSteps_limited {memoize : Bool} {limit : Nat} {run : Run} :
    run.outOfSteps (limited memoize limit) = false ↔ run.steps ≤ limit := by
  simp [Run.outOfSteps, limited]

end ParseOptions

open ParseOptions

section Replies

variable {run after : Run} {call : Call} {tree : Option Tree} {events : List Event}

theorem Parser.Replies.spends
    (replies : Replies ⟨grammar, tokens, options, run⟩ call tree after events) :
    run.Spends options after := replies.lasts Run.Spends.lasting

theorem Parser.Replies.under
    (replies : Replies ⟨grammar, tokens, options, run⟩ call tree after events)
    (memoize : options.memoize = other.memoize) (within : after.outOfSteps options = false)
    (withinOther : after.outOfSteps other = false) :
    Replies ⟨grammar, tokens, other, run⟩ call tree after events := by
  cases replies with
  | attempted target course => exact .attempted target (course.under memoize within withinOther)
  | unknown missing => exact .unknown missing

/-- A run that is given up answers no call and stays where it is. -/
theorem Parser.Replies.refused
    (replies : Replies ⟨grammar, tokens, options, run⟩ call tree after events)
    (gone : run.aborted = true) :
    tree = none ∧ after.position = run.position ∧ after.aborted = true := by
  cases replies with
  | unknown missing => exact ⟨rfl, rfl, gone⟩
  | @attempted id tree after events target course =>
    cases course with
    | answered gate =>
      have entered := Run.enters options id run
      rw [gate] at entered
      cases entered with
      | givenUp => exact ⟨rfl, rfl, gone⟩
      | exhausted live | refused live | failedBefore live | matchedBefore live =>
        exact absurd (gone.symm.trans live) (by decide)
    | failed gate | matched gate =>
      obtain ⟨-, live, -⟩ := Run.opened_of_enter gate
      exact absurd (gone.symm.trans live) (by decide)

end Replies

/--
States of a parser without a budget and of one with a budget, after the same calls. They are the
same state, or the one with the budget is given up and the other one has taken too many steps.
-/
structure Paces (grammar : Grammar) (tokens : List Token) (memoize : Bool) (limit : Nat)
    (full cut : Run) : Prop where
  fullRest : full.AtRest grammar tokens
  cutRest : cut.AtRest grammar tokens
  fullAccounted : full.Accounted (unlimited memoize)
  cutAccounted : cut.Accounted (limited memoize limit)
  together : cut = full ∧ full.steps ≤ limit ∨ cut.aborted = true ∧ limit < full.steps

namespace Paces

variable {memoize : Bool} {limit : Nat} {full cut fullAfter cutAfter : Run} {call : Call}
  {tree cutTree : Option Tree} {events cutEvents : List Event}

theorem fresh : Paces grammar tokens memoize limit {} {} where
  fullRest := Run.atRest_fresh
  cutRest := Run.atRest_fresh
  fullAccounted := Run.accounted_fresh
  cutAccounted := Run.accounted_fresh
  together := .inl ⟨rfl, Nat.zero_le limit⟩

theorem aborted_iff (paces : Paces grammar tokens memoize limit full cut) :
    cut.aborted = true ↔ limit < full.steps := by
  rcases paces.together with ⟨rfl, within⟩ | ⟨gone, beyond⟩
  · have live : cut.aborted = false := paces.fullAccounted
    rw [live]
    exact ⟨fun gone => absurd gone (by decide), fun beyond => absurd within (Nat.not_le.mpr beyond)⟩
  · exact ⟨fun _ => beyond, fun _ => gone⟩

theorem eq_of_live (paces : Paces grammar tokens memoize limit full cut)
    (live : cut.aborted = false) : cut = full := by
  rcases paces.together with ⟨same, -⟩ | ⟨gone, -⟩
  · exact same
  · exact absurd (gone.symm.trans live) (by decide)

/-- As long as the budget is not used up, both answer alike and stay the same. -/
theorem reply (paces : Paces grammar tokens memoize limit full cut)
    (replies : Parser.Replies ⟨grammar, tokens, unlimited memoize, full⟩ call tree fullAfter events)
    (cutReplies : Parser.Replies ⟨grammar, tokens, limited memoize limit, cut⟩ call cutTree cutAfter
      cutEvents) :
    Paces grammar tokens memoize limit fullAfter cutAfter ∧
      (cutAfter.aborted = false → cutTree = tree) := by
  have cutAccounted : cutAfter.Accounted (limited memoize limit) :=
    cutReplies.spends.accounted paces.cutAccounted
  have build := Paces.mk (replies.atRest paces.fullRest) (cutReplies.atRest paces.cutRest)
    (replies.spends.accounted paces.fullAccounted) cutAccounted
  rcases paces.together with ⟨rfl, -⟩ | ⟨gone, beyond⟩
  · by_cases within : fullAfter.steps ≤ limit
    · -- The whole call stays within the budget, so it is the same with the budget.
      have both : Parser.Replies ⟨grammar, tokens, limited memoize limit, _⟩ call tree fullAfter
          events := replies.under rfl outOfSteps_unlimited (outOfSteps_limited.mpr within)
      obtain ⟨rfl, rfl⟩ := both.unique cutReplies paces.cutRest
      exact ⟨build (.inl ⟨rfl, within⟩), fun _ => rfl⟩
    · -- If the call were not cut, it would be the same without the budget, and too short.
      have beyond : limit < fullAfter.steps := Nat.lt_of_not_le within
      have gone : cutAfter.aborted = true := by
        by_contra notGone
        have live : cutAfter.aborted = false := Bool.eq_false_iff.mpr notGone
        have cutWithin : cutAfter.outOfSteps (limited memoize limit) = false :=
          cutAccounted.symm.trans live
        have both : Parser.Replies ⟨grammar, tokens, unlimited memoize, _⟩ call cutTree cutAfter
            cutEvents := cutReplies.under rfl cutWithin outOfSteps_unlimited
        obtain ⟨-, rfl⟩ := both.unique replies paces.fullRest
        exact within (outOfSteps_limited.mp cutWithin)
      exact ⟨build (.inr ⟨gone, beyond⟩), fun live => absurd (gone.symm.trans live) (by decide)⟩
  · obtain ⟨-, -, still⟩ := cutReplies.refused gone
    have more : limit < fullAfter.steps := Nat.lt_of_lt_of_le beyond replies.spends.steps
    exact ⟨build (.inr ⟨still, more⟩), fun live => absurd (still.symm.trans live) (by decide)⟩

end Paces

namespace Parser

theorem exists_callAll_paces {memoize : Bool} {limit : Nat} {full cut : Run}
    (paces : Paces grammar tokens memoize limit full cut) (calls : List Call) :
    ∃ fullAfter cutAfter,
      callAll ⟨grammar, tokens, unlimited memoize, full⟩ calls =
        ⟨grammar, tokens, unlimited memoize, fullAfter⟩ ∧
      callAll ⟨grammar, tokens, limited memoize limit, cut⟩ calls =
        ⟨grammar, tokens, limited memoize limit, cutAfter⟩ ∧
      Paces grammar tokens memoize limit fullAfter cutAfter := by
  induction calls generalizing full cut with
  | nil => exact ⟨full, cut, rfl, rfl, paces⟩
  | cons call others ih =>
    obtain ⟨tree, fullBetween, events, replies⟩ :=
      exists_replies (unlimited memoize) call paces.fullRest
    obtain ⟨cutTree, cutBetween, cutEvents, cutReplies⟩ :=
      exists_replies (limited memoize limit) call paces.cutRest
    obtain ⟨fullAfter, cutAfter, fullEqual, cutEqual, later⟩ :=
      ih (paces.reply replies cutReplies).1
    have fullFirst := replies.callAll_cons paces.fullRest others
    have cutFirst := cutReplies.callAll_cons paces.cutRest others
    exact ⟨fullAfter, cutAfter, fullFirst.trans fullEqual, cutFirst.trans cutEqual, later⟩

/-- A parser that is given up stays where it is and answers no call any more. -/
theorem exists_callAll_refused (options : ParseOptions) {run : Run}
    (rest : run.AtRest grammar tokens) (gone : run.aborted = true) (calls : List Call) :
    ∃ after, callAll ⟨grammar, tokens, options, run⟩ calls = ⟨grammar, tokens, options, after⟩ ∧
      after.AtRest grammar tokens ∧ after.position = run.position ∧ after.aborted = true := by
  apply exists_callAll_eq options _ calls rest ⟨rfl, gone⟩
  rintro before call tree after events - ⟨position, beforeGone⟩ replies
  obtain ⟨-, stays, still⟩ := replies.refused beforeGone
  exact ⟨stays.trans position, still⟩

/--
A budget only cuts. A parser with a budget is given up after some calls exactly if the parser
without one has taken more steps over them, and up to there both answer every call with the same
tree and report the same position, furthest position, steps and error. Once it is given up, it
answers no call, stays where it is and remains given up.
-/
theorem limit_only_cuts (grammar : Grammar) (tokens : List Token) (memoize : Bool) (limit : Nat)
    (calls : List Call) :
    let cut := callAll
      { grammar, tokens, options := { memoize, maxSteps := some limit } } calls
    let full := callAll { grammar, tokens, options := { memoize, maxSteps := none } } calls
    (cut.run.aborted = true ↔ limit < full.run.steps) ∧
    (∀ call, (cut.call call).2.run.aborted = false →
      (cut.call call).1 = (full.call call).1 ∧
      (cut.call call).2.run.position = (full.call call).2.run.position ∧
      (cut.call call).2.run.furthest = (full.call call).2.run.furthest ∧
      (cut.call call).2.run.steps = (full.call call).2.run.steps ∧
      (cut.call call).2.error = (full.call call).2.error) ∧
    (cut.run.aborted = true → ∀ later call,
      ((cut.callAll later).call call).1 = none ∧
      ((cut.callAll later).call call).2.run.position = cut.run.position ∧
      ((cut.callAll later).call call).2.run.aborted = true) := by
  obtain ⟨full, cut, fullEqual, cutEqual, paces⟩ :=
    exists_callAll_paces (.fresh : Paces grammar tokens memoize limit {} {}) calls
  simp only [unlimited, limited] at fullEqual cutEqual
  rw [fullEqual, cutEqual]
  refine ⟨paces.aborted_iff, fun call live => ?_, fun gone later call => ?_⟩
  · obtain ⟨tree, fullAfter, events, replies⟩ :=
      exists_replies (unlimited memoize) call paces.fullRest
    obtain ⟨cutTree, cutAfter, cutEvents, cutReplies⟩ :=
      exists_replies (limited memoize limit) call paces.cutRest
    obtain ⟨after, answer⟩ := paces.reply replies cutReplies
    have fullCall := replies.call_eq paces.fullRest
    have cutCall := cutReplies.call_eq paces.cutRest
    simp only [unlimited, limited] at fullCall cutCall
    rw [cutCall] at live ⊢
    rw [fullCall]
    have same : cutAfter = fullAfter := after.eq_of_live live
    obtain rfl := answer live
    subst same
    exact ⟨rfl, rfl, rfl, rfl, rfl⟩
  · obtain ⟨last, equal, rest, position, still⟩ :=
      exists_callAll_refused (limited memoize limit) paces.cutRest gone later
    obtain ⟨tree, after, events, replies⟩ := exists_replies (limited memoize limit) call rest
    obtain ⟨rfl, stays, remains⟩ := replies.refused still
    have called := replies.call_eq rest
    simp only [limited] at equal called
    rw [equal, called]
    exact ⟨rfl, stays.trans position, remains⟩

end Parser

end Constituency
