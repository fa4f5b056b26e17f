import Constituency.Proofs.Parser.Budget
import Constituency.Proofs.Parser.Memory

/-!
# Calls in the middle of a sentence

A call looks at no token in front of the cursor, and what was called before leaves no trace in it.
So it does what the first call of a parser of the remaining tokens does, with all positions shifted
to the place of the cursor. Without a memory the state of a run is little more than positions, and
the whole course can be shifted; with a memory, the parser answers as one without.
-/
namespace Constituency

variable {grammar : Grammar} {tokens : List Token} {options : ParseOptions}

/-! ### Shifted trees -/

def Span.shift (offset : Nat) (span : Span) : Span := ⟨offset + span.start, offset + span.stop⟩

namespace Tree

mutual

/-- The same tree further to the right: every span is shifted. -/
def shift (offset : Nat) : Tree → Tree
  | .leaf token span => .leaf token (span.shift offset)
  | .branch label span children => .branch label (span.shift offset) (shiftAll offset children)

def shiftAll (offset : Nat) : List Tree → List Tree
  | [] => []
  | child :: rest => child.shift offset :: shiftAll offset rest

end

theorem span_shift (offset : Nat) (tree : Tree) :
    (tree.shift offset).span = tree.span.shift offset := by
  cases tree <;> rfl

theorem shiftAll_append (offset : Nat) (front back : List Tree) :
    shiftAll offset (front ++ back) = shiftAll offset front ++ shiftAll offset back := by
  induction front with
  | nil => rfl
  | cons child rest ih => simp only [List.cons_append, shiftAll, ih]

end Tree

/-! ### Shifted tasks -/

/-- A match of alternatives further to the right. -/
def shiftMatch (offset : Nat) : List Tree × Nat → List Tree × Nat
  | (nodes, stop) => (Tree.shiftAll offset nodes, offset + stop)

/-- A task at a place further to the right. -/
def Task.shift (offset : Nat) : Task → Task
  | .attempt id => .attempt id
  | .body expr => .body expr
  | .items exprs => .items exprs
  | .alternatives exprs best => .alternatives exprs (best.map (shiftMatch offset))
  | .repetition expr => .repetition expr

def Task.shiftAnswer (offset : Nat) :
    (task : Task) → task.Answer → (task.shift offset).Answer
  | .attempt _, tree => tree.map (Tree.shift offset)
  | .body _, nodes => nodes.map (Tree.shiftAll offset)
  | .items _, nodes => nodes.map (Tree.shiftAll offset)
  | .alternatives .., found => found.map (shiftMatch offset)
  | .repetition _, (nodes, count) => (Tree.shiftAll offset nodes, count)

def shiftAttempt (offset : Nat) (attempt : Attempt) : Attempt := (attempt.1, offset + attempt.2)

theorem shiftAttempt_injective (offset : Nat) : Function.Injective (shiftAttempt offset) := by
  rintro ⟨id, position⟩ ⟨id', position'⟩ equal
  simp only [shiftAttempt, Prod.mk.injEq, Nat.add_left_cancel_iff] at equal
  exact Prod.ext equal.1 equal.2

theorem longer_shift (offset : Nat) (best : Option (List Tree × Nat))
    (nodes : Option (List Tree)) (stop : Nat) :
    longer (best.map (shiftMatch offset)) (nodes.map (Tree.shiftAll offset)) (offset + stop) =
      (longer best nodes stop).map (shiftMatch offset) := by
  cases nodes with
  | none => rfl
  | some nodes =>
    cases best with
    | none => rfl
    | some best =>
      obtain ⟨chosen, bestStop⟩ := best
      simp only [longer, Option.map_some, shiftMatch, Nat.add_le_add_iff_left]
      split <;> rfl

theorem tokenMatching_drop (offset position : Nat) (pattern : Option Pattern) :
    tokenMatching (tokens.drop offset) position pattern =
      tokenMatching tokens (offset + position) pattern := by
  simp only [tokenMatching, List.getElem?_drop]

/-! ### Shifted courses -/

/-- A state that is another one further to the right; before it, `reached` was the furthest end. -/
structure Shifted (offset reached : Nat) (run moved : Run) : Prop where
  live : run.aborted = false
  movedLive : moved.aborted = false
  position : moved.position = offset + run.position
  active : moved.active = run.active.map (shiftAttempt offset)
  furthest : moved.furthest = max reached (offset + run.furthest)

namespace Shifted

variable {offset reached : Nat} {run moved : Run}

theorem moveTo (shifted : Shifted offset reached run moved) (position : Nat) :
    Shifted offset reached (run.moveTo position) (moved.moveTo (offset + position)) :=
  ⟨shifted.live, shifted.movedLive, rfl, shifted.active, shifted.furthest⟩

/-- Both cursors go back to where the task has begun. -/
theorem back {after movedAfter : Run} (shifted : Shifted offset reached run moved)
    (ended : Shifted offset reached after movedAfter) :
    Shifted offset reached (after.moveTo run.position) (movedAfter.moveTo moved.position) := by
  rw [shifted.position]
  exact ended.moveTo run.position

theorem mem_active_iff (shifted : Shifted offset reached run moved) (id : Nat) :
    (id, moved.position) ∈ moved.active ↔ (id, run.position) ∈ run.active := by
  rw [shifted.active, shifted.position]
  exact List.mem_map_of_injective (shiftAttempt_injective offset) (a := (id, run.position))

theorem begin (shifted : Shifted offset reached run moved) (id : Nat) :
    Shifted offset reached (run.counted.begin id) (moved.counted.begin id) where
  live := shifted.live
  movedLive := shifted.movedLive
  position := shifted.position
  active := by
    simp [Run.begin, Run.counted, shifted.active, shifted.position, shiftAttempt]
  furthest := shifted.furthest

/-- An attempt that is over leaves the same attempts under way that it has found. -/
theorem finish {id : Nat} {inner movedInner : Run} (shifted : Shifted offset reached run moved)
    (inside : Shifted offset reached inner movedInner)
    (grown : (run.counted.begin id).Grows inner)
    (movedGrown : (moved.counted.begin id).Grows movedInner) :
    Shifted offset reached (inner.finish (id, run.position))
      (movedInner.finish (id, moved.position)) where
  live := inside.live
  movedLive := inside.movedLive
  position := inside.position
  active := by
    rw [grown.finish.active, movedGrown.finish.active]
    exact shifted.active
  furthest := inside.furthest

theorem reach (shifted : Shifted offset reached run moved) :
    Shifted offset reached run.reach moved.reach where
  live := shifted.live
  movedLive := shifted.movedLive
  position := shifted.position
  active := shifted.active
  furthest := by
    have position := shifted.position
    have furthest := shifted.furthest
    simp only [Run.reach]
    omega

theorem keep {attempt movedAttempt : Attempt} {hits movedHits : Nat}
    {outcome movedOutcome : Outcome} (shifted : Shifted offset reached run moved) :
    Shifted offset reached (run.keep options attempt hits outcome)
      (moved.keep options movedAttempt movedHits movedOutcome) where
  live := Run.keep_aborted.trans shifted.live
  movedLive := Run.keep_aborted.trans shifted.movedLive
  position := by
    rw [Run.keep_position, Run.keep_position]
    exact shifted.position
  active := by
    rw [Run.keep_active, Run.keep_active]
    exact shifted.active
  furthest := by
    rw [Run.keep_furthest, Run.keep_furthest]
    exact shifted.furthest

end Shifted

/-- Whether a task is answered alike further to the right, with the shifted answer. -/
def Task.Moves (grammar : Grammar) (tokens : List Token) (offset reached : Nat) (task : Task)
    (answer : task.Answer) (after moved : Run) : Prop :=
  ∃ movedAfter events,
    Course grammar tokens forgetful (task.shift offset) moved (task.shiftAnswer offset answer)
      movedAfter events ∧
    Shifted offset reached after movedAfter

/-- A task that ends where a part of it ends. -/
theorem Task.Moves.imp {offset reached : Nat} {part whole : Task} {after moved : Run}
    {answer : part.Answer} {last : whole.Answer}
    (moves : part.Moves grammar tokens offset reached answer after moved)
    (build : ∀ {movedAfter : Run} {events : List Event},
      Course grammar tokens forgetful (part.shift offset) moved (part.shiftAnswer offset answer)
        movedAfter events →
      ∃ others, Course grammar tokens forgetful (whole.shift offset) moved
        (whole.shiftAnswer offset last) movedAfter others) :
    whole.Moves grammar tokens offset reached last after moved := by
  obtain ⟨movedAfter, events, followed, ended⟩ := moves
  obtain ⟨others, built⟩ := build followed
  exact ⟨movedAfter, others, built, ended⟩

/-- Without a memory the gate answers only by a refusal, and it refuses the same attempts. -/
theorem Shifted.answered {offset reached id : Nat} {run moved after : Run} {tree : Option Tree}
    (shifted : Shifted offset reached run moved)
    (gate : Run.Enters forgetful id run (.answered tree after)) :
    Task.Moves grammar tokens offset reached (.attempt id) tree after moved := by
  cases gate with
  | givenUp gone => exact absurd (shifted.live.symm.trans gone) (by decide)
  | exhausted live gone => simp [Run.outOfSteps, forgetful] at gone
  | refused live within active =>
    have movedActive := (shifted.mem_active_iff id).mpr active
    exact ⟨_, [], .answered (Run.enter_forgetful_refused shifted.movedLive movedActive), live,
      shifted.movedLive, shifted.position, shifted.active, shifted.furthest⟩
  | failedBefore live within free memoize known => exact absurd memoize (by decide)
  | matchedBefore live within free memoize known => exact absurd memoize (by decide)

/-- A course over the tokens from a place on is a course over all tokens, shifted to that place. -/
theorem Course.shifted {offset reached : Nat} {task : Task} {run after moved : Run}
    {answer : task.Answer} {events : List Event}
    (course : Course grammar (tokens.drop offset) forgetful task run answer after events)
    (shifted : Shifted offset reached run moved) :
    task.Moves grammar tokens offset reached answer after moved := by
  induction course generalizing moved with
  | answered gate => exact shifted.answered (gate ▸ Run.enters ..)
  | @failed id run inner rule children events gate production inside nothing ih =>
    obtain ⟨-, -, free, -⟩ := Run.opened_of_enter gate
    have movedFree := (not_congr (shifted.mem_active_iff id)).mpr free
    have opened := Run.enter_forgetful_opened shifted.movedLive movedFree
    obtain ⟨movedInner, movedEvents, movedInside, ended⟩ := ih (shifted.begin id)
    have finished := shifted.finish ended inside.grows movedInside.grows
    have movedNothing : (children.map (Tree.shiftAll offset)).getD [] = [] := by
      cases children with
      | none => rfl
      | some nodes =>
        obtain rfl : nodes = [] := nothing
        rfl
    exact ⟨_, _, .failed opened production movedInside movedNothing, (shifted.back finished).keep⟩
  | @matched id run inner rule first others events gate production inside ih =>
    obtain ⟨-, -, free, -⟩ := Run.opened_of_enter gate
    have movedFree := (not_congr (shifted.mem_active_iff id)).mpr free
    have opened := Run.enter_forgetful_opened shifted.movedLive movedFree
    obtain ⟨movedInner, movedEvents, movedInside, ended⟩ := ih (shifted.begin id)
    have finished := shifted.finish ended inside.grows movedInside.grows
    have followed := Course.matched opened production movedInside
    -- The branch reaches from where its first child begins to the cursor, both of them shifted.
    rw [Tree.span_shift, ended.position] at followed
    exact ⟨_, _, followed, finished.reach.keep⟩
  | @token pattern run token there =>
    rw [tokenMatching_drop, ← shifted.position] at there
    have moves : Course grammar tokens forgetful (.body (.terminal pattern)) moved
        (some [.leaf token ⟨moved.position, moved.position + 1⟩])
        (moved.moveTo (moved.position + 1)) [] := .token there
    rw [shifted.position] at moves
    exact ⟨_, _, moves, shifted.moveTo (run.position + 1)⟩
  | noToken missing =>
    rw [tokenMatching_drop, ← shifted.position] at missing
    exact ⟨moved, [], .noToken missing, shifted⟩
  | @ref target run after tree events call ih =>
    refine (ih shifted).imp fun followed => ?_
    cases tree with
    | none => exact ⟨_, .ref followed⟩
    | some tree => exact ⟨_, .ref followed⟩
  | seq all ih => exact (ih shifted).imp fun followed => ⟨_, .seq followed⟩
  | brokenSeq all ih =>
    obtain ⟨movedAfter, events, followed, ended⟩ := ih shifted
    exact ⟨_, events, .brokenSeq followed, shifted.back ended⟩
  | @opt body run after nodes events once ih =>
    refine (ih shifted).imp fun followed => ?_
    cases nodes with
    | none => exact ⟨_, .opt followed⟩
    | some nodes => exact ⟨_, .opt followed⟩
  | star loop ih => exact (ih shifted).imp fun followed => ⟨_, .star followed⟩
  | @plus body run after nodes count events loop ih =>
    refine (ih shifted).imp fun followed => ?_
    cases count with
    | zero => exact ⟨_, .plus followed⟩
    | succ count => exact ⟨_, .plus followed⟩
  | longest tried ih =>
    obtain ⟨movedAfter, events, followed, ended⟩ := ih shifted
    exact ⟨_, events, .longest followed, ended.moveTo _⟩
  | noLongest tried ih => exact (ih shifted).imp fun followed => ⟨_, .noLongest followed⟩
  | noItems => exact ⟨moved, [], .noItems, shifted⟩
  | brokenItems head ih => exact (ih shifted).imp fun followed => ⟨_, .brokenItems followed⟩
  | @items item rest run between after nodes more events others head tail first second =>
    obtain ⟨movedBetween, movedEvents, movedHead, early⟩ := first shifted
    obtain ⟨movedAfter, movedOthers, movedTail, late⟩ := second early
    have whole := Course.items movedHead movedTail
    refine ⟨movedAfter, movedEvents ++ movedOthers, ?_, late⟩
    cases more with
    | none => exact whole
    | some more =>
      dsimp only [Task.shiftAnswer, Option.map_some] at whole
      rw [← Tree.shiftAll_append] at whole
      exact whole
  | noAlternatives => exact ⟨moved, [], .noAlternatives, shifted⟩
  | @alternatives alternative rest run between after best found nodes events others head tail
      first second =>
    obtain ⟨movedBetween, movedEvents, movedHead, early⟩ := first shifted
    obtain ⟨movedAfter, movedOthers, movedTail, late⟩ := second (shifted.back early)
    -- Which match is the longer one does not depend on the place.
    have same := longer_shift offset best nodes between.position
    rw [← early.position] at same
    dsimp only [Task.shift] at movedTail
    rw [← same] at movedTail
    exact ⟨movedAfter, _, .alternatives movedHead movedTail, late⟩
  | ends last ih => exact (ih shifted).imp fun followed => ⟨_, .ends followed⟩
  | stalls last stalled ih =>
    obtain ⟨movedAfter, events, followed, ended⟩ := ih shifted
    have movedStalled : movedAfter.position = moved.position := by
      rw [ended.position, stalled, shifted.position]
    exact ⟨movedAfter, events, .stalls followed movedStalled, ended⟩
  | continues first advanced loop one more =>
    obtain ⟨movedBetween, movedEvents, movedFirst, early⟩ := one shifted
    obtain ⟨movedAfter, movedOthers, movedLoop, late⟩ := more early
    have movedOn : movedBetween.position ≠ moved.position := by
      rw [early.position, shifted.position]
      exact fun equal => advanced (Nat.add_left_cancel equal)
    have whole := Course.continues movedFirst movedOn movedLoop
    rw [← Tree.shiftAll_append] at whole
    exact ⟨movedAfter, _, whole, late⟩

/-! ### Calls -/

open ParseOptions

theorem Parser.Replies.shifted {offset reached : Nat} {run after moved : Run} {call : Call}
    {tree : Option Tree} {events : List Event}
    (replies : Replies ⟨grammar, tokens.drop offset, forgetful, run⟩ call tree after events)
    (shifted : Shifted offset reached run moved) :
    ∃ movedAfter movedEvents,
      Replies ⟨grammar, tokens, forgetful, moved⟩ call (tree.map (Tree.shift offset)) movedAfter
        movedEvents ∧
      Shifted offset reached after movedAfter := by
  cases replies with
  | attempted target course =>
    obtain ⟨movedAfter, movedEvents, followed, ended⟩ := course.shifted shifted
    exact ⟨movedAfter, movedEvents, .attempted target followed, ended⟩
  | unknown missing => exact ⟨moved, [], .unknown missing, shifted⟩

/-- A state without a memory that looks like another one and answers every call like it. -/
structure StandsFor (grammar : Grammar) (tokens : List Token) (memoize : Bool)
    (run plain : Run) : Prop where
  rest : run.AtRest grammar tokens
  plainRest : plain.AtRest grammar tokens
  live : plain.aborted = false
  position : plain.position = run.position
  furthest : plain.furthest = run.furthest
  reply : ∀ (call : Call) (tree : Option Tree) (after : Run) (events : List Event),
    Parser.Replies ⟨grammar, tokens, unlimited memoize, run⟩ call tree after events →
    ∃ plainAfter plainEvents,
      Parser.Replies ⟨grammar, tokens, forgetful, plain⟩ call tree plainAfter plainEvents ∧
      plainAfter.position = after.position ∧ plainAfter.furthest = after.furthest

namespace StandsFor

variable {memoize : Bool} {run plain : Run}

theorem of_twins (twins : Twins grammar tokens run plain) :
    StandsFor grammar tokens true run plain where
  rest := twins.rest
  plainRest := twins.plainRest
  live := twins.live
  position := twins.position
  furthest := twins.furthest
  reply := by
    intro call tree after events replies
    obtain ⟨plainAfter, plainEvents, plainReplies, alike⟩ := twins.reply replies
    exact ⟨plainAfter, plainEvents, plainReplies, alike.position, alike.furthest⟩

theorem refl (rest : run.AtRest grammar tokens) (live : run.aborted = false) :
    StandsFor grammar tokens false run run where
  rest := rest
  plainRest := rest
  live := live
  position := rfl
  furthest := rfl
  reply := fun _ _ after events replies => ⟨after, events, replies, rfl, rfl⟩

/-- Of two parsers that were not called yet, the one of the remaining tokens can be shifted. -/
theorem shifted {rest : List Token} {plainFresh : Run}
    (stands : StandsFor grammar tokens memoize run plain)
    (fresh : StandsFor grammar rest memoize {} plainFresh) :
    Shifted run.position run.furthest plainFresh plain where
  live := fresh.live
  movedLive := stands.live
  position := by
    rw [stands.position, fresh.position]
    rfl
  active := by
    rw [stands.plainRest.idle, fresh.plainRest.idle]
    rfl
  furthest := by
    rw [stands.furthest, fresh.furthest]
    exact (Nat.max_eq_left stands.rest.position_le).symm

end StandsFor

namespace Parser

/-- Behind any calls there is a state without a memory that stands for the one reached. -/
theorem exists_standsFor (grammar : Grammar) (tokens : List Token) (memoize : Bool)
    (calls : List Call) :
    ∃ run plain, callAll ⟨grammar, tokens, unlimited memoize, {}⟩ calls =
        ⟨grammar, tokens, unlimited memoize, run⟩ ∧
      StandsFor grammar tokens memoize run plain := by
  cases memoize with
  | true =>
    obtain ⟨run, equal, -, plain, twins⟩ := exists_callAll_eq remembering
      (P := fun run => ∃ plain, Twins grammar tokens run plain)
      (fun _ _ _ _ _ _ ⟨_, twins⟩ replies =>
        have ⟨plainAfter, _, _, alike⟩ := twins.reply replies
        ⟨plainAfter, alike⟩)
      calls Run.atRest_fresh ⟨{}, twins_fresh⟩
    exact ⟨run, plain, equal, .of_twins twins⟩
  | false =>
    obtain ⟨run, equal, rest, accounted⟩ := exists_callAll_eq forgetful
      (P := fun run => run.Accounted forgetful)
      (fun _ _ _ _ _ _ accounted replies => replies.spends.accounted accounted)
      calls Run.atRest_fresh Run.accounted_fresh
    exact ⟨run, run, equal, .refl rest accounted⟩

/--
A parser in use answers like a fresh one over the tokens from its cursor on. Whatever was called
before, a call gives the tree that the fresh parser gives, shifted to the place of the cursor; the
cursor moves as far as the fresh one, and the furthest end is the larger one of what it was and
what the fresh parser reaches.
-/
theorem call_eq_shift_fresh (grammar : Grammar) (tokens : List Token) (memoize : Bool)
    (calls : List Call) (call : Call) :
    let options : ParseOptions := { memoize, maxSteps := none }
    let used := callAll { grammar, tokens, options } calls
    let start := used.run.position
    let fresh : Parser := { grammar, tokens := tokens.drop start, options }
    (used.call call).1 = (fresh.call call).1.map (Tree.shift start) ∧
    (used.call call).2.run.position = start + (fresh.call call).2.run.position ∧
    (used.call call).2.run.furthest =
      max used.run.furthest (start + (fresh.call call).2.run.furthest) := by
  obtain ⟨run, plain, equal, stands⟩ := exists_standsFor grammar tokens memoize calls
  obtain ⟨freshRun, plainFresh, freshEqual, freshStands⟩ :=
    exists_standsFor grammar (tokens.drop run.position) memoize []
  obtain rfl : {} = freshRun := congrArg Parser.run freshEqual
  obtain ⟨tree, after, events, replies⟩ := exists_replies (unlimited memoize) call stands.rest
  obtain ⟨freshTree, freshAfter, freshEvents, freshReplies⟩ :=
    exists_replies (unlimited memoize) call freshStands.rest
  -- Both answers are given without a memory, and there the fresh course can be shifted.
  obtain ⟨plainAfter, _, plainReplies, position, furthest⟩ := stands.reply _ _ _ _ replies
  obtain ⟨plainFreshAfter, _, plainFreshReplies, freshPosition, freshFurthest⟩ :=
    freshStands.reply _ _ _ _ freshReplies
  obtain ⟨movedAfter, movedEvents, moved, ended⟩ :=
    plainFreshReplies.shifted (stands.shifted freshStands)
  obtain ⟨rfl, rfl⟩ := moved.unique plainReplies stands.plainRest
  have usedCall := replies.call_eq stands.rest
  have freshCall := freshReplies.call_eq freshStands.rest
  simp only [unlimited] at equal usedCall freshCall
  dsimp only
  rw [equal]
  dsimp only
  rw [usedCall, freshCall]
  refine ⟨rfl, ?_, ?_⟩
  · calc
      after.position = plainAfter.position := position.symm
      _ = run.position + plainFreshAfter.position := ended.position
      _ = run.position + freshAfter.position := by rw [freshPosition]
  · calc
      after.furthest = plainAfter.furthest := furthest.symm
      _ = max run.furthest (run.position + plainFreshAfter.furthest) := ended.furthest
      _ = max run.furthest (run.position + freshAfter.furthest) := by rw [freshFurthest]

end Parser

end Constituency
