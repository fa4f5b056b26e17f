import Constituency.Proofs.Parser.Likeness

/-!
# Parsers that are alike

A parser that stands for another one does the same: each step of a course of the one is a step of a
course of the other, with the productions at their other places and other tokens at the leaves of
the trees. This is proved once, by induction on the course, for all that can be told apart by places
and tokens alone; a memory and a budget make no difference. So such parsers tell alike of all calls.
-/
namespace Constituency

/-! ### Courses that stand for each other -/

namespace Likeness

variable (like : Likeness)

/-- Whether the longest match of some alternatives ends where the cursor may go. -/
def Stays : (task : Task) → task.Answer → Prop
  | .alternatives .., found => ∀ best ∈ found, like.within best.2
  | _, _ => True

/-- Whether a task is answered alike by the other parser. -/
structure Follows (other : Grammar) (others : List Token) (options : ParseOptions) (task : Task)
    (answer : task.Answer) (after otherRun : Run) : Prop where
  course : ∃ otherAfter events,
    Course other others options (like.task task) otherRun (like.answer task answer) otherAfter
        events ∧
      like.Relates after otherAfter
  stays : like.Stays task answer

end Likeness

section Course

variable {like : Likeness} {grammar other : Grammar} {tokens others : List Token}
  {options : ParseOptions}

/-- A task that ends where a part of it ends. -/
theorem Likeness.Follows.imp {part whole : Task} {after otherRun : Run} {answer : part.Answer}
    {last : whole.Answer}
    (follows : like.Follows other others options part answer after otherRun)
    (build : ∀ {otherAfter : Run} {events : List Event},
      Course other others options (like.task part) otherRun (like.answer part answer)
        otherAfter events →
      ∃ more, Course other others options (like.task whole) otherRun
        (like.answer whole last) otherAfter more)
    (stays : like.Stays whole last := by trivial) :
    like.Follows other others options whole last after otherRun := by
  obtain ⟨⟨otherAfter, events, followed, ended⟩, -⟩ := follows
  obtain ⟨more, built⟩ := build followed
  exact ⟨⟨otherAfter, more, built, ended⟩, stays⟩

/-- A course is one of the other parser, too, if the two are alike. -/
theorem Course.likened {task : Task} {run after otherRun : Run} {answer : task.Answer}
    {events : List Event} (course : Course grammar tokens options task run answer after events)
    (holds : like.Holds tokens others grammar other) (sees : like.SeesTask tokens others task)
    (relates : like.Relates run otherRun) :
    like.Follows other others options task answer after otherRun := by
  -- Each step is made by the same rule in the other parser, between states that are related.
  induction course generalizing otherRun with
  | answered gate =>
    obtain ⟨otherAfter, answered, ended⟩ := relates.answered holds.place_injective gate
    exact ⟨⟨otherAfter, [], .answered answered, ended⟩, trivial⟩
  | @failed id run inner rule children events gate production within nothing ih =>
    obtain ⟨there, seen⟩ := holds.production id rule sees production
    obtain ⟨⟨otherInner, otherEvents, otherWithin, ended⟩, -⟩ := ih seen (relates.counted.begin id)
    -- No nodes are no nodes of other tokens, too, so this is a failure again.
    have otherNothing : (children.map (List.map like.tree)).getD [] = [] := by
      cases children with
      | none => rfl
      | some nodes =>
        obtain rfl : nodes = [] := nothing
        rfl
    have opened := relates.opened holds.place_injective gate
    refine ⟨⟨_, _, .failed opened there otherWithin otherNothing, ?_⟩, trivial⟩
    rw [relates.position, relates.guardHits]
    exact ((ended.finish holds.place_injective (id, run.position)).moveTo
      relates.position_within).keep holds.place_injective (id, run.position) _ nofun
  | @matched id run inner rule first rest events gate production within ih =>
    obtain ⟨there, seen⟩ := holds.production id rule sees production
    obtain ⟨⟨otherInner, otherEvents, otherWithin, ended⟩, -⟩ := ih seen (relates.counted.begin id)
    have opened := relates.opened holds.place_injective gate
    have followed := Course.matched opened there otherWithin
    -- The branch reaches as far as the one of the first parser.
    rw [like.span_tree, like.name_rule, ended.position, relates.position, relates.guardHits,
      ← List.map_cons, ← like.tree_branch] at followed
    refine ⟨⟨_, _, followed, ?_⟩, trivial⟩
    apply (ended.finish holds.place_injective (id, run.position)).reach.keep holds.place_injective
    rintro _ _ ⟨⟩
    exact ended.position_within
  | @token pattern run token there =>
    have stands : pattern ∈ (Expr.terminal pattern : Expr Ref).terminals := by simp [Expr.terminals]
    have otherThere := sees.terminals pattern stands run.position relates.position_within
    -- A token was there, so the cursor may move past it.
    have next : like.within (run.position + 1) :=
      sees.advances pattern stands run.position relates.position_within (by rw [there]; rfl)
    rw [there, ← relates.position] at otherThere
    have followed : Course other others options (.body (.terminal pattern)) otherRun
        (some [.leaf (like.change otherRun.position token)
          ⟨otherRun.position, otherRun.position + 1⟩])
        (otherRun.moveTo (otherRun.position + 1)) [] := .token otherThere
    rw [relates.position] at followed
    exact ⟨⟨_, _, followed, relates.moveTo next⟩, trivial⟩
  | @noToken pattern run missing =>
    have otherMissing := sees.terminals pattern (by simp [Expr.terminals]) run.position
      relates.position_within
    rw [missing, ← relates.position] at otherMissing
    exact ⟨⟨otherRun, [], .noToken otherMissing, relates⟩, trivial⟩
  | @ref target run after tree events call ih =>
    have met : like.inside target.id := sees.references target (by simp [Expr.references])
    refine (ih met relates).imp fun {otherAfter otherEvents} followed => ?_
    have whole : Course other others options (.body (.ref (like.ref target))) otherRun
      ((tree.map like.tree).map fun tree => [tree]) otherAfter otherEvents := .ref followed
    cases tree with
    | none => exact ⟨_, whole⟩
    | some tree => exact ⟨_, whole⟩
  | seq all ih => exact (ih sees.items relates).imp fun followed => ⟨_, .seq followed⟩
  | brokenSeq all ih =>
    obtain ⟨⟨otherAfter, events, followed, ended⟩, -⟩ := ih sees.items relates
    exact ⟨⟨_, events, .brokenSeq followed, relates.back ended⟩, trivial⟩
  | @opt body run after nodes events once ih =>
    refine (ih sees.inner relates).imp fun followed => ?_
    cases nodes with
    | none => exact ⟨_, .opt followed⟩
    | some nodes => exact ⟨_, .opt followed⟩
  | star loop ih => exact (ih sees.inner relates).imp fun followed => ⟨_, .star followed⟩
  | @plus body run after nodes count events loop ih =>
    refine (ih sees.inner relates).imp fun followed => ?_
    cases count with
    | zero => exact ⟨_, .plus followed⟩
    | succ count => exact ⟨_, .plus followed⟩
  | @longest alternatives run after nodes stop events tried ih =>
    have parts := Likeness.Sees.items sees.inner
    obtain ⟨⟨otherAfter, events, followed, ended⟩, stays⟩ := ih ⟨parts, by simp⟩ relates
    exact ⟨⟨_, events, .longest followed, ended.moveTo (stays (nodes, stop) rfl)⟩, trivial⟩
  | noLongest tried ih =>
    have parts := Likeness.Sees.items sees.inner
    exact (ih ⟨parts, by simp⟩ relates).imp fun followed => ⟨_, .noLongest followed⟩
  | noItems => exact ⟨⟨otherRun, [], .noItems, relates⟩, trivial⟩
  | brokenItems head ih =>
    obtain ⟨first, -⟩ := List.forall_mem_cons.mp sees
    exact (ih first relates).imp fun followed => ⟨_, .brokenItems followed⟩
  | @items item rest run between after nodes more events later head tail first second =>
    obtain ⟨here, behind⟩ := List.forall_mem_cons.mp sees
    obtain ⟨⟨otherBetween, otherEvents, otherHead, early⟩, -⟩ := first here relates
    obtain ⟨⟨otherAfter, otherLater, otherTail, late⟩, -⟩ := second behind early
    have whole := Course.items otherHead otherTail
    refine ⟨⟨otherAfter, otherEvents ++ otherLater, ?_, late⟩, trivial⟩
    cases more with
    | none => exact whole
    | some more =>
      dsimp only [Likeness.answer, Option.map_some] at whole
      rw [← List.map_append] at whole
      exact whole
  | noAlternatives => exact ⟨⟨otherRun, [], .noAlternatives, relates⟩, sees.2⟩
  | @alternatives alternative rest run between after best found nodes events later head tail
      first second =>
    obtain ⟨parts, stays⟩ := sees
    obtain ⟨here, behind⟩ := List.forall_mem_cons.mp parts
    obtain ⟨⟨otherBetween, otherEvents, otherHead, early⟩, -⟩ := first here relates
    have still : ∀ chosen ∈ longer best nodes between.position, like.within chosen.2 := by
      intro chosen is
      rcases eq_of_longer is with old | ⟨-, new⟩
      · exact stays chosen old
      · rw [new]
        exact early.position_within
    obtain ⟨⟨otherAfter, otherLater, otherTail, late⟩, last⟩ :=
      second ⟨behind, still⟩ (relates.back early)
    -- Which match is the longer one does not depend on the tokens.
    have same := like.longer_best best nodes between.position
    dsimp only [Likeness.task, Likeness.answer] at otherTail
    rw [← same, ← early.position] at otherTail
    exact ⟨⟨otherAfter, _, .alternatives otherHead otherTail, late⟩, last⟩
  | ends last ih => exact (ih sees relates).imp fun followed => ⟨_, .ends followed⟩
  | stalls last stalled ih =>
    obtain ⟨⟨otherAfter, events, followed, ended⟩, -⟩ := ih sees relates
    have otherStalled : otherAfter.position = otherRun.position := by
      rw [ended.position, stalled, relates.position]
    exact ⟨⟨otherAfter, events, .stalls followed otherStalled, ended⟩, trivial⟩
  | continues first advanced loop one more =>
    obtain ⟨⟨otherBetween, otherEvents, otherFirst, early⟩, -⟩ := one sees relates
    obtain ⟨⟨otherAfter, otherLater, otherLoop, late⟩, -⟩ := more sees early
    have otherOn : otherBetween.position ≠ otherRun.position := by
      rw [early.position, relates.position]
      exact advanced
    have whole := Course.continues otherFirst otherOn otherLoop
    rw [← List.map_append] at whole
    exact ⟨⟨otherAfter, _, whole, late⟩, trivial⟩

end Course

/-! ### Calls of parsers that are alike -/

section Calls

variable {like : Likeness} {grammar other : Grammar} {tokens others : List Token}
  {options : ParseOptions}

theorem Likeness.Relates.error {run otherRun : Run} (relates : like.Relates run otherRun)
    (shown : ∀ position, like.within position →
      others[position]? = tokens[position]?.map (like.change position)) :
    otherRun.error others = (run.error tokens).reword like.change := by
  have stands := shown run.furthest relates.furthest_within
  unfold Run.error
  rw [relates.aborted, relates.steps, relates.furthest, stands]
  split
  · rfl
  · cases tokens[run.furthest]? <;> rfl

theorem Parser.Replies.likened {run after otherRun : Run} {call : Call} {tree : Option Tree}
    {events : List Event}
    (replies : Replies ⟨grammar, tokens, options, run⟩ call tree after events)
    (holds : like.Holds tokens others grammar other) (relates : like.Relates run otherRun)
    (target : call.target? other = (call.target? grammar).map like.place)
    (met : ∀ id, call.target? grammar = some id → like.inside id) :
    ∃ otherAfter otherEvents,
      Replies ⟨other, others, options, otherRun⟩ call (tree.map like.tree) otherAfter
        otherEvents ∧
      like.Relates after otherAfter := by
  cases replies with
  | @attempted id _ _ _ found course =>
    obtain ⟨⟨otherAfter, otherEvents, followed, ended⟩, -⟩ :=
      course.likened holds (met id found) relates
    refine ⟨otherAfter, otherEvents, .attempted ?_ followed, ended⟩
    rw [target, found]
    rfl
  | unknown missing =>
    refine ⟨otherRun, [], .unknown ?_, relates⟩
    rw [target, missing]
    rfl

/-- Parsers that are alike, at rest. -/
structure Likeness.Pairs (like : Likeness) (grammar other : Grammar) (tokens others : List Token)
    (options : ParseOptions) (parser twin : Parser) : Prop where
  parser_eq : parser = ⟨grammar, tokens, options, parser.run⟩
  twin_eq : twin = ⟨other, others, options, twin.run⟩
  rest : parser.run.AtRest grammar tokens
  twinRest : twin.run.AtRest other others
  relates : like.Relates parser.run twin.run

/-- Fresh parsers that are alike tell alike of all that can be called. -/
theorem Likeness.accounts_eq (holds : like.Holds tokens others grammar other)
    (targets : ∀ call : Call, call.target? other = (call.target? grammar).map like.place)
    (met : ∀ (call : Call) (id : Nat), call.target? grammar = some id → like.inside id)
    (within : like.within 0)
    (shown : ∀ position, like.within position →
      others[position]? = tokens[position]?.map (like.change position))
    (options : ParseOptions) (calls : List Call) :
    Parser.accounts { grammar := other, tokens := others, options } calls =
      (Parser.accounts { grammar, tokens, options } calls).map (Account.reword like.change) := by
  -- One call keeps the parsers related, and what both tell of it is the same but for the tokens.
  have step (parser twin : Parser) (call : Call)
      (pairs : like.Pairs grammar other tokens others options parser twin) :
      (twin.call call).2.account (twin.call call).1 =
          ((parser.call call).2.account (parser.call call).1).reword like.change ∧
        like.Pairs grammar other tokens others options (parser.call call).2
          (twin.call call).2 := by
    obtain ⟨parser_eq, twin_eq, rest, twinRest, relates⟩ := pairs
    obtain ⟨tree, after, events, replies⟩ := Parser.exists_replies options call rest
    obtain ⟨twinAfter, twinEvents, twinReplies, ended⟩ :=
      replies.likened holds relates (targets call) (met call)
    rw [parser_eq, twin_eq, replies.call_eq rest, twinReplies.call_eq twinRest]
    refine ⟨?_, rfl, rfl, replies.atRest rest, twinReplies.atRest twinRest, ended⟩
    simp only [Parser.account, Parser.error, Account.reword, ended.error shown, ended.position,
      ended.furthest, ended.steps, ended.aborted]
    rfl
  exact Parser.accounts_eq_map step
    ⟨rfl, rfl, Run.atRest_fresh, Run.atRest_fresh, .fresh within⟩ calls

end Calls

/-! ### The same productions -/

/-- A grammar stands for itself where its productions see tokens that are alike. -/
theorem Likeness.holds_self {like : Likeness} {grammar : Grammar} {tokens others : List Token}
    (place : like.place = id)
    (seen : ∀ id rule, like.inside id → grammar.rules[id]? = some rule →
      like.Sees tokens others rule.body) :
    like.Holds tokens others grammar grammar where
  place_injective := place ▸ Function.injective_id
  production := by
    intro id rule met there
    have body : rule.body.mapRefs like.ref = rule.body :=
      Expr.mapRefs_self fun target _ => by simp [ref, place]
    have same : like.rule rule = rule := by rw [Likeness.rule, body]
    rw [place, same]
    exact ⟨there, seen id rule met there⟩

end Constituency
